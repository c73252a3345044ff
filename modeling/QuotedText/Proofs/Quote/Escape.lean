import Mathlib.Data.List.SplitBy
import QuotedText.Proofs.Quote.Run
import QuotedText.Quote.Rewrite

/-!
# The two escapes

The escape of a quote style decides how quoted text is cut into spans and nothing else
(`QuoteStyle.escape_invariance`). `QuoteStyle.refines_escape` lays the spans of a text under both
escapes side by side: each unquoted span is the same, and each region under the doubled escape is
the run in its place. A run is told from its spans alone, so merging the runs gives back the spans
under the doubled escape (`QuoteStyle.Refines.mergeRuns`).
-/

namespace QuotedText

namespace Span

/-- Spans are located behind the spans before them. -/
theorem located_append (start : Nat) (before after : List Span) :
    located start (before ++ after) =
      located start before ++ located (start + (texts before).byteLength) after := by
  induction before generalizing start with
  | nil => simp [located]
  | cons span before ih =>
    rw [List.cons_append, located, located, ih, List.cons_append, texts_cons,
      Text.byteLength_append, Nat.add_assoc]

/-- A located span is one of the spans. -/
theorem mem_of_mem_located {start : Nat} {spans : List Span} {span : Located}
    (member : span ∈ located start spans) : span.span ∈ spans := by
  simpa using List.mem_map_of_mem (f := (·.span)) member

/-- The span that neighbours make up: it reaches from the start of the first to the end of the last
and has the kind of the last. -/
def join? (run : List Located) : Option Located := do
  let first ← run.head?
  let last ← run.getLast?
  return ⟨first.start, last.stop, ⟨last.span.kind, texts (run.map (·.span))⟩⟩

/-- A rewrite copies regions. -/
theorem rewriteAll_append_regions {m : Type → Type} [Monad m] [LawfulMonad m]
    (rewrite : Text → m Text) {run : List Span} (rest : List Span)
    (regions : ∀ span ∈ run, span.kind ≠ .unquoted) :
    rewriteAll rewrite (run ++ rest) = (texts run ++ ·) <$> rewriteAll rewrite rest := by
  induction run with
  | nil => simp
  | cons span run ih =>
    have later := ih fun span member => regions span (List.mem_cons_of_mem _ member)
    obtain ⟨kind, text⟩ := span
    cases kind with
    | unquoted => exact absurd rfl (regions _ List.mem_cons_self)
    | quoted => simp [rewriteAll, later]
    | unterminated => simp [rewriteAll, later]

end Span

namespace QuoteStyle

variable {style : QuoteStyle}

/-! ## Spans side by side -/

/-- Spans of a text under the doubled escape next to its spans without escape. -/
inductive Refines (style : QuoteStyle) : List Span → List Span → Prop
  /-- There is no text. -/
  | nil : Refines style [] []
  /-- Unquoted text is the same. -/
  | unquoted {text : Text} {coarse fine : List Span} (more : Refines style coarse fine) :
      Refines style (⟨.unquoted, text⟩ :: coarse) (⟨.unquoted, text⟩ :: fine)
  /-- A region is a run, and what follows does not continue the run. -/
  | region {q : Char} {run : List Span} {whole : Span} {coarse fine : List Span}
      (isRun : style.Run q run whole)
      (ends : ∀ next ∈ fine.head?, next.kind ≠ .unquoted →
        ∀ c ∈ next.text.head?, style.closes q c = false)
      (more : Refines style coarse fine) : Refines style (whole :: coarse) (run ++ fine)

/-- The spans without escape refine the spans under the doubled escape. -/
theorem refines_escape (style : QuoteStyle) (text : Text) :
    style.Refines ((style.withEscape .doubled).spans text)
      ((style.withEscape .none).spans text) := by
  have cut := (style.withEscape .doubled).wellCut_spans text
  have flat := (style.withEscape .doubled).spans_flatten text
  generalize (style.withEscape .doubled).spans text = coarse at cut flat ⊢
  subst flat
  induction cut with
  | nil => simpa using Refines.nil
  | @unquoted text more nonempty plain maximal cut ih =>
    have quote := (WellCut.unquoted nonempty plain maximal cut).isQuote_head
    have plain' : ∀ c ∈ text, (style.withEscape .none).isQuote c = false := plain
    rw [Span.texts_cons, spans_append_unquoted nonempty plain']
    · exact .unquoted ih
    · intro next isNext unquoted
      obtain ⟨c, isHead, -, kind⟩ := exists_head_spans isNext
      have none := kind.mp unquoted
      rw [isQuote_withEscape] at none
      exact absurd (quote c isHead) (by simp [none])
  | @quoted q close body more quote inside closes ends _ ih =>
    have quote' : style.isQuote q := quote
    obtain ⟨run, isRun, reads⟩ := exists_run_closed quote' inside closes (Span.texts more)
    rw [Span.texts_cons_closed, reads.spans]
    refine .region isRun ?_ ih
    intro next isNext region c isOpener
    obtain ⟨d, isHead, isFirst, -⟩ := exists_head_spans isNext
    obtain rfl : d = c := Option.some.inj (isFirst.symm.trans isOpener)
    exact ends rfl d isHead
  | @unterminated q body quote inside =>
    have quote' : style.isQuote q := quote
    obtain ⟨run, isRun, reads⟩ := exists_run_open quote' inside
    rw [Span.texts_singleton, reads.spans, spans_nil]
    exact .region isRun (by simp) .nil

/-! ## Runs made one -/

/-- Whether two neighbours are regions that the same quote opens. -/
def reopens (style : QuoteStyle) (before next : Span.Located) : Bool :=
  before.span.kind ≠ .unquoted && next.span.kind ≠ .unquoted &&
    match before.span.text.head?, next.span.text.head? with
    | some p, some q => style.closes p q
    | _, _ => false

/-- A region follows one of the same quote when its opening quote closes that one. -/
theorem reopens_eq {a b : Span.Located} {p q : Char} (regionA : a.span.kind ≠ .unquoted)
    (openerA : a.span.text.head? = some p) (regionB : b.span.kind ≠ .unquoted)
    (openerB : b.span.text.head? = some q) : style.reopens a b = style.closes p q := by
  simp [reopens, regionA, openerA, regionB, openerB]

/-- Makes one span of each maximal run of neighbours that are regions of the same quote. -/
def mergeRuns (style : QuoteStyle) (spans : List Span.Located) : List Span.Located :=
  (spans.splitBy style.reopens).filterMap Span.join?

/-- Spans that no run goes through are merged apart. -/
theorem mergeRuns_append {before after : List Span.Located}
    (apart : ∀ a ∈ before.getLast?, ∀ b ∈ after.head?, style.reopens a b = false) :
    style.mergeRuns (before ++ after) = style.mergeRuns before ++ style.mergeRuns after := by
  rw [mergeRuns, List.splitBy_append apart, List.filterMap_append]
  rfl

variable {q : Char} {run coarse fine : List Span} {whole : Span}

/-- The quote of a run opens each of its regions. -/
theorem Run.opens (isRun : style.Run q run whole) :
    ∀ span ∈ run, span.kind ≠ .unquoted ∧ ∃ c, span.text.head? = some c ∧ style.closes q c := by
  induction isRun with
  | @one kind c body region same => simpa using ⟨region, same⟩
  | @cons c body run whole same _ ih => simpa using ⟨same, ih⟩

/-- A run makes up a region. -/
theorem Run.region (isRun : style.Run q run whole) : whole.kind ≠ .unquoted := by
  induction isRun with
  | one region _ => exact region
  | cons _ _ ih => exact ih

/-- The last region of a run stops where the run does and has the kind of what the run makes up. -/
theorem Run.getLast?_located (isRun : style.Run q run whole) (start : Nat) :
    ∃ last, (Span.located start run).getLast? = some last ∧
      last.stop = start + whole.text.byteLength ∧ last.span.kind = whole.kind := by
  induction isRun generalizing start with
  | one => exact ⟨_, rfl, rfl, rfl⟩
  | @cons c body run whole same _ ih =>
    obtain ⟨last, isLast, stop, kind⟩ := ih (start + Text.byteLength (c :: body))
    refine ⟨last, ?_, ?_, kind⟩
    · rw [Span.located, List.getLast?_cons, isLast]
      rfl
    · rw [stop, ← List.cons_append, Text.byteLength_append, Nat.add_assoc]

/-- What makes a located run is the region that the run makes up. -/
theorem Run.join?_located (isRun : style.Run q run whole) (start : Nat) :
    Span.join? (Span.located start run) =
      some ⟨start, start + whole.text.byteLength, whole⟩ := by
  have begins : (Span.located start run).head?.map (·.start) = some start := by
    cases isRun <;> rfl
  obtain ⟨first, isFirst, rfl⟩ := Option.map_eq_some_iff.mp begins
  obtain ⟨last, isLast, stop, kind⟩ := isRun.getLast?_located first.start
  rw [Span.join?, isFirst, isLast, Span.map_span_located, isRun.texts]
  simp [stop, kind]

/-- Neighbours in a located run are regions of the same quote. -/
theorem Run.isChain_located (isRun : style.Run q run whole) (start : Nat) :
    (Span.located start run).IsChain fun a b => style.reopens a b := by
  refine (List.pairwise_of_forall_mem_list ?_).isChain
  intro a memberA b memberB
  obtain ⟨regionA, c, openerA, same⟩ := isRun.opens a.span (Span.mem_of_mem_located memberA)
  obtain ⟨regionB, d, openerB, reopened⟩ := isRun.opens b.span (Span.mem_of_mem_located memberB)
  rwa [reopens_eq regionA openerA regionB openerB, closes_congr same]

/-- A located run is one run, and merging makes it the region that it makes up. -/
theorem Run.mergeRuns_located (isRun : style.Run q run whole) (start : Nat) :
    style.mergeRuns (Span.located start run) = Span.located start [whole] := by
  have nonempty : Span.located start run ≠ [] := by
    cases isRun <;> simp [Span.located]
  rw [mergeRuns, List.splitBy_of_isChain nonempty (isRun.isChain_located start)]
  simp [isRun.join?_located, Span.located]

/-- A run stops where the next span is no region of its quote. -/
theorem Run.not_reopens (isRun : style.Run q run whole)
    (ends : ∀ next ∈ fine.head?, next.kind ≠ .unquoted →
      ∀ c ∈ next.text.head?, style.closes q c = false) (start behind : Nat) :
    ∀ a ∈ (Span.located start run).getLast?, ∀ b ∈ (Span.located behind fine).head?,
      style.reopens a b = false := by
  intro a isLast b isNext
  obtain ⟨regionA, p, openerA, same⟩ :=
    isRun.opens a.span (Span.mem_of_mem_located (List.mem_of_getLast? isLast))
  cases fine with
  | nil => contradiction
  | cons next more =>
    obtain rfl := Option.some.inj isNext
    by_cases region : next.kind = .unquoted
    · simp [reopens, region]
    · cases openerB : next.text.head? with
      | none => simp [reopens, openerA, openerB]
      | some d =>
        rw [reopens_eq regionA openerA region openerB, closes_congr same]
        exact ends next rfl region d openerB

/-- Merging the runs gives the spans that they refine. -/
theorem Refines.mergeRuns (refines : style.Refines coarse fine) (start : Nat) :
    style.mergeRuns (Span.located start fine) = Span.located start coarse := by
  induction refines generalizing start with
  | nil => rfl
  | @unquoted text coarse fine _ ih =>
    have apart : ∀ a ∈ (Span.located start [⟨.unquoted, text⟩]).getLast?,
        ∀ b ∈ (Span.located (start + text.byteLength) fine).head?, style.reopens a b = false := by
      simp [Span.located, reopens]
    have alone : style.mergeRuns (Span.located start [⟨.unquoted, text⟩]) =
        Span.located start [⟨.unquoted, text⟩] := by
      simp [QuoteStyle.mergeRuns, List.splitBy_of_isChain, Span.located, Span.join?]
    have merged := mergeRuns_append apart
    rwa [alone, ih] at merged
  | @region q run whole coarse fine isRun ends _ ih =>
    rw [Span.located_append, mergeRuns_append (isRun.not_reopens ends start _),
      isRun.mergeRuns_located, ih, isRun.texts]
    rfl

/-- A region with a doubled quote is two regions without escape, and merging makes them one. -/
example :
    QuoteStyle.locatedSpans { escape := .none } "'a''b'c".toList =
        [⟨0, 3, ⟨.quoted, "'a'".toList⟩⟩, ⟨3, 6, ⟨.quoted, "'b'".toList⟩⟩,
          ⟨6, 7, ⟨.unquoted, ['c']⟩⟩] ∧
      QuoteStyle.mergeRuns {} (QuoteStyle.locatedSpans { escape := .none } "'a''b'c".toList) =
        [⟨0, 6, ⟨.quoted, "'a''b'".toList⟩⟩, ⟨6, 7, ⟨.unquoted, ['c']⟩⟩] := by
  decide +kernel

/-- The unquoted spans are the same in both lists, at the same positions. -/
theorem Refines.filter_unquoted (refines : style.Refines coarse fine) (start : Nat) :
    (Span.located start coarse).filter (·.span.kind = .unquoted) =
      (Span.located start fine).filter (·.span.kind = .unquoted) := by
  induction refines generalizing start with
  | nil => rfl
  | unquoted _ ih => simp [Span.located, ih]
  | @region q run whole coarse fine isRun _ _ ih =>
    have regions : (Span.located start run).filter (·.span.kind = .unquoted) = [] := by
      rw [List.filter_eq_nil_iff]
      intro span member
      simpa using (isRun.opens span.span (Span.mem_of_mem_located member)).1
    rw [Span.located_append, List.filter_append, regions, List.nil_append, isRun.texts,
      Span.located, List.filter_cons_of_neg (by simpa using isRun.region), ih]

/-- A rewrite does the same with both lists. -/
theorem Refines.rewriteAll {m : Type → Type} [Monad m] [LawfulMonad m] (rewrite : Text → m Text)
    (refines : style.Refines coarse fine) :
    Span.rewriteAll rewrite coarse = Span.rewriteAll rewrite fine := by
  induction refines with
  | nil => rfl
  | unquoted _ ih => simp [Span.rewriteAll, ih]
  | @region q run whole coarse fine isRun _ _ ih =>
    have regions : ∀ span ∈ run, span.kind ≠ .unquoted :=
      fun span member => (isRun.opens span member).1
    have one : ∀ span ∈ [whole], span.kind ≠ .unquoted := by simpa using isRun.region
    have copied := Span.rewriteAll_append_regions rewrite coarse one
    rw [Span.rewriteAll_append_regions rewrite fine regions, isRun.texts, ← ih]
    simpa using copied

/-! ## Operations -/

/-- The texts that a rewrite is applied to are those of the unquoted located spans. -/
theorem unquotedTexts_eq (style : QuoteStyle) (text : Text) :
    style.unquotedTexts text =
      ((style.locatedSpans text).filter (·.span.kind = .unquoted)).map (·.span.text) := by
  have spans := Span.map_span_located 0 (style.spans text)
  rw [unquotedTexts, ← spans, List.filter_map, List.map_map]
  rfl

/-- A rewrite is applied to the same texts under both escapes. -/
theorem unquotedTexts_escape (style : QuoteStyle) (text : Text) :
    (style.withEscape .doubled).unquotedTexts text =
      (style.withEscape .none).unquotedTexts text := by
  have unquoted := (style.refines_escape text).filter_unquoted 0
  rw [unquotedTexts_eq, unquotedTexts_eq, locatedSpans, locatedSpans, unquoted]

/-- A rewrite gives the same text under both escapes. -/
theorem rewriteUnquoted_escape (style : QuoteStyle) (change : Text → Text) (text : Text) :
    (style.withEscape .doubled).rewriteUnquoted change text =
      (style.withEscape .none).rewriteUnquoted change text := by
  have same := (style.refines_escape text).rewriteAll fun part => (pure (change part) : Id Text)
  rw [rewriteUnquoted, rewriteUnquotedM, same]
  rfl

/-- The escape decides how quoted text is cut into spans and nothing else: the spans under the
doubled escape are the spans without escape with each run of regions of one quote made one, and
the unquoted spans, searches, splits and rewrites are the same. -/
theorem escape_invariance (style : QuoteStyle) (text : Text) :
    (style.withEscape .doubled).locatedSpans text =
        style.mergeRuns ((style.withEscape .none).locatedSpans text) ∧
      ((style.withEscape .doubled).locatedSpans text).filter (·.span.kind = .unquoted) =
        ((style.withEscape .none).locatedSpans text).filter (·.span.kind = .unquoted) ∧
      (∀ needle, (style.withEscape .doubled).contains needle text =
        (style.withEscape .none).contains needle text) ∧
      (∀ token options, (style.withEscape .doubled).split token options text =
        (style.withEscape .none).split token options text) ∧
      (style.withEscape .doubled).unquotedTexts text =
        (style.withEscape .none).unquotedTexts text ∧
      ∀ {σ : Type} (rewrite : Text → StateM σ Text),
        (style.withEscape .doubled).rewriteUnquotedM rewrite text =
          (style.withEscape .none).rewriteUnquotedM rewrite text := by
  have refines := style.refines_escape text
  have unquoted := refines.filter_unquoted 0
  refine ⟨(refines.mergeRuns 0).symm, unquoted, ?_, ?_, ?_, refines.rewriteAll⟩
  · intro needle
    simp [contains, occurs_escape]
  · intro token options
    simp [split, splitOn, pieces_escape]
  · rw [unquotedTexts_eq, unquotedTexts_eq, locatedSpans, locatedSpans, unquoted]

end QuoteStyle

end QuotedText
