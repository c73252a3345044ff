import QuotedText.Proofs.Quote.Run
import QuotedText.Quote.Rewrite

/-!
# Rewritten text

A rewrite puts other text in the place of each unquoted span. When the other text is never empty and
has no quote, no region begins or ends in it, and none goes on into it. So the rewritten spans are
well cut (`QuoteStyle.WellCut.rewrite`), which makes them the spans of the rewritten text, and a
second rewrite finds in them what the first has put there
(`QuoteStyle.rewriteUnquoted_keeps_structure`).
-/

namespace QuotedText

namespace Span

/-- A span after a rewrite of unquoted text; it keeps its kind. -/
def rewrite (change : Text → Text) (span : Span) : Span :=
  ⟨span.kind, span.rewritten change⟩

variable {change : Text → Text}

/-- A rewrite changes no kind. -/
@[simp] theorem rewrite_kind (span : Span) : (span.rewrite change).kind = span.kind := rfl

/-- A rewrite changes unquoted text. -/
@[simp] theorem rewrite_unquoted (text : Text) :
    rewrite change ⟨.unquoted, text⟩ = ⟨.unquoted, change text⟩ := rfl

/-- A rewrite leaves a quoted region alone. -/
@[simp] theorem rewrite_quoted (text : Text) : rewrite change ⟨.quoted, text⟩ = ⟨.quoted, text⟩ :=
  rfl

/-- A rewrite leaves an open region alone. -/
@[simp] theorem rewrite_unterminated (text : Text) :
    rewrite change ⟨.unterminated, text⟩ = ⟨.unterminated, text⟩ := rfl

/-- Two rewrites of a span are one rewrite with both changes. -/
theorem rewritten_rewrite (further : Text → Text) (span : Span) :
    (span.rewrite change).rewritten further = span.rewritten (further ∘ change) := by
  obtain ⟨kind, text⟩ := span
  cases kind <;> rfl

/-- The text of rewritten spans is what a rewrite makes of the spans. -/
theorem texts_map_rewrite (spans : List Span) :
    texts (spans.map (·.rewrite change)) = spans.flatMap (·.rewritten change) :=
  List.flatMap_map _ _ spans

end Span

namespace QuoteStyle

variable {style : QuoteStyle} {change : Text → Text}

/-- A change gives text that is not empty and has no quote. -/
def KeepsUnquoted (style : QuoteStyle) (change : Text → Text) (text : Text) : Prop :=
  change text ≠ [] ∧ ∀ c ∈ change text, style.isQuote c = false

/-- A region that ends before some spans ends before them when they have been rewritten. -/
theorem EndsBefore.rewrite {opener : Char} {spans : List Span} (cut : style.WellCut spans)
    (quote : style.isQuote opener)
    (keeps : ∀ span ∈ spans, span.kind = .unquoted → style.KeepsUnquoted change span.text)
    (ends : style.EndsBefore opener (Span.texts spans)) :
    style.EndsBefore opener (Span.texts (spans.map (·.rewrite change))) := by
  intro doubled c isHead
  cases cut with
  | nil => contradiction
  | @unquoted text more _ _ _ _ =>
    have kept : style.KeepsUnquoted change text := keeps _ List.mem_cons_self rfl
    have inText : c ∈ change text := by
      obtain ⟨first, rest, textEq⟩ := List.exists_cons_of_ne_nil kept.1
      have sameHead : first = c := by simpa [textEq] using isHead
      rw [textEq, sameHead]
      exact List.mem_cons_self
    -- What closes the region could open one, and the text that is put here has no quote.
    by_contra closes
    have plain := kept.2 c inText
    rw [isQuote_of_closes quote (by simpa using closes)] at plain
    contradiction
  | quoted => exact ends doubled c isHead
  | unterminated => exact ends doubled c isHead

/-- Well-cut spans stay well cut when their unquoted text is changed to unquoted text. -/
theorem WellCut.rewrite {spans : List Span} (cut : style.WellCut spans)
    (keeps : ∀ span ∈ spans, span.kind = .unquoted → style.KeepsUnquoted change span.text) :
    style.WellCut (spans.map (·.rewrite change)) := by
  induction cut with
  | nil => exact .nil
  | @unquoted text more _ _ maximal _ ih =>
    obtain ⟨here, later⟩ := List.forall_mem_cons.mp keeps
    have kept : style.KeepsUnquoted change text := here rfl
    rw [List.map_cons, Span.rewrite_unquoted]
    refine .unquoted kept.1 kept.2 ?_ (ih later)
    intro next isNext
    rw [List.head?_map] at isNext
    obtain ⟨span, isHead, rfl⟩ := Option.map_eq_some_iff.mp isNext
    rw [Span.rewrite_kind]
    exact maximal span isHead
  | quoted quote inside closes ends cut ih =>
    have later := (List.forall_mem_cons.mp keeps).2
    rw [List.map_cons, Span.rewrite_quoted]
    exact .quoted quote inside closes (EndsBefore.rewrite cut quote later ends) (ih later)
  | unterminated quote inside =>
    rw [List.map_singleton, Span.rewrite_unterminated]
    exact .unterminated quote inside

/-- Where a change gives unquoted text for unquoted text, the spans of the rewritten text are the
rewritten spans, and a second rewrite is one with both changes. -/
theorem rewriteUnquoted_keeps_structure (style : QuoteStyle) (change : Text → Text) (text : Text)
    (keeps : ∀ part ∈ style.unquotedTexts text, style.KeepsUnquoted change part) :
    style.spans (style.rewriteUnquoted change text) =
        (style.spans text).map (·.rewrite change) ∧
      ∀ further, style.rewriteUnquoted further (style.rewriteUnquoted change text) =
        style.rewriteUnquoted (further ∘ change) text := by
  have keepsSpans : ∀ span ∈ style.spans text, span.kind = .unquoted →
      style.KeepsUnquoted change span.text := by
    intro span member unquoted
    have isPart : span ∈ (style.spans text).filter (·.kind = .unquoted) :=
      List.mem_filter.mpr ⟨member, by simpa using unquoted⟩
    exact keeps span.text (List.mem_map_of_mem isPart)
  have spansEq : style.spans (style.rewriteUnquoted change text) =
      (style.spans text).map (·.rewrite change) := by
    rw [rewriteUnquoted_eq, ← Span.texts_map_rewrite]
    exact ((style.wellCut_spans text).rewrite keepsSpans).spans_texts
  refine ⟨spansEq, ?_⟩
  intro further
  rw [rewriteUnquoted_eq, spansEq, rewriteUnquoted_eq, List.flatMap_map]
  congr 1
  funext span
  exact span.rewritten_rewrite further

/-- Brackets around unquoted text leave two regions that touch and a region that stays open. -/
theorem rewriteUnquoted_keeps_structure_brackets :
    QuoteStyle.sql.unquotedTexts "a'b''c'\x60d'\x60x'e".toList = [['a'], ['x']] ∧
      (∀ part ∈ QuoteStyle.sql.unquotedTexts "a'b''c'\x60d'\x60x'e".toList,
        QuoteStyle.sql.KeepsUnquoted (fun part => '<' :: (part ++ ['>'])) part) ∧
      QuoteStyle.sql.spans (QuoteStyle.sql.rewriteUnquoted (fun part => '<' :: (part ++ ['>']))
          "a'b''c'\x60d'\x60x'e".toList) =
        [⟨.unquoted, "<a>".toList⟩, ⟨.quoted, "'b''c'".toList⟩, ⟨.quoted, "\x60d'\x60".toList⟩,
          ⟨.unquoted, "<x>".toList⟩, ⟨.unterminated, "'e".toList⟩] ∧
      ∀ further, QuoteStyle.sql.rewriteUnquoted further
          (QuoteStyle.sql.rewriteUnquoted (fun part => '<' :: (part ++ ['>']))
            "a'b''c'\x60d'\x60x'e".toList) =
        QuoteStyle.sql.rewriteUnquoted (further ∘ fun part => '<' :: (part ++ ['>']))
          "a'b''c'\x60d'\x60x'e".toList := by
  have parts : QuoteStyle.sql.unquotedTexts "a'b''c'\x60d'\x60x'e".toList = [['a'], ['x']] := by
    decide +kernel
  have keeps : ∀ part ∈ QuoteStyle.sql.unquotedTexts "a'b''c'\x60d'\x60x'e".toList,
      QuoteStyle.sql.KeepsUnquoted (fun part => '<' :: (part ++ ['>'])) part := by
    have plain : [['a'], ['x']].all fun part =>
        ('<' :: (part ++ ['>'])).all (!QuoteStyle.sql.isQuote ·) := by
      decide
    rw [parts]
    intro part member
    refine ⟨List.cons_ne_nil '<' _, ?_⟩
    intro c inPart
    have plainHere := List.all_eq_true.mp (List.all_eq_true.mp plain part member) c inPart
    simpa using plainHere
  obtain ⟨spansEq, composed⟩ := rewriteUnquoted_keeps_structure QuoteStyle.sql
    (fun part => '<' :: (part ++ ['>'])) "a'b''c'\x60d'\x60x'e".toList keeps
  have spans : QuoteStyle.sql.spans "a'b''c'\x60d'\x60x'e".toList =
      [⟨.unquoted, ['a']⟩, ⟨.quoted, "'b''c'".toList⟩, ⟨.quoted, "\x60d'\x60".toList⟩,
        ⟨.unquoted, ['x']⟩, ⟨.unterminated, "'e".toList⟩] := by
    decide +kernel
  rw [spans] at spansEq
  exact ⟨parts, keeps, spansEq, composed⟩

end QuoteStyle

end QuotedText
