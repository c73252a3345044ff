import QuotedText.Proofs.Quote.Escape
import QuotedText.Proofs.Sql.Backtick

/-!
# Spans of text with backticks

Where a doubled quote becomes a backtick, the text loses two quotes, and those that are left could
pair up in another way. They do not: each region that is shown with backticks is still one region
(`Sql.exists_inside_laterBacktickPairs`), so the spans of the new text are those of the old one,
each as it is shown (`Sql.spans_backtickEscapes`). Text outside literals is therefore the same, and
as no doubled quote is left inside them but those that stay, a second time changes nothing
(`Sql.backtickEscapes_keeps_unquoted`).
-/

namespace QuotedText.Sql

open QuoteStyle

variable {letterCase : LetterCase} {body kept : Text}

/-! ## Writing backticks twice -/

/-- Text that begins with no quote keeps its first character. -/
theorem head?_backtickEscapesFrom (inLiteral : Bool) {text : Text}
    (alone : ∀ c ∈ text.head?, c ≠ '\'') :
    (backtickEscapesFrom inLiteral text).head? = text.head? := by
  cases text with
  | nil => rfl
  | cons c rest =>
    rw [backtickEscapesFrom_plain inLiteral (alone c rfl)]
    rfl

/-- A second time finds nothing to change, as the quotes that are left open and close the same
literals. -/
theorem backtickEscapesFrom_twice (inLiteral : Bool) (text : Text) :
    backtickEscapesFrom inLiteral (backtickEscapesFrom inLiteral text) =
      backtickEscapesFrom inLiteral text := by
  fun_induction backtickEscapesFrom inLiteral text with
  | case1 => rfl
  | case2 inLiteral rest ih =>
    cases inLiteral with
    | false => exact congrArg (['\'', '\''] ++ ·) ih
    | true => exact congrArg ('\x60' :: ·) ih
  | case3 inLiteral c rest unpaired ih =>
    by_cases quote : c = '\''
    · subst quote
      have alone : ∀ d ∈ rest.head?, d ≠ '\'' := by
        rintro d isHead rfl
        obtain ⟨more, rfl⟩ := List.head?_eq_some_iff.mp isHead
        exact unpaired more rfl rfl
      have stillAlone : ∀ d ∈ (backtickEscapesFrom (!inLiteral) rest).head?, d ≠ '\'' := by
        rwa [head?_backtickEscapesFrom _ alone]
      have changes : (if '\'' == '\'' then !inLiteral else inLiteral) = !inLiteral := rfl
      rw [changes] at ih ⊢
      rw [backtickEscapesFrom_single inLiteral stillAlone, ih]
    · have stays : (if c == '\'' then !inLiteral else inLiteral) = inLiteral := by simp [quote]
      rw [stays] at ih ⊢
      rw [backtickEscapesFrom_plain inLiteral quote, ih]

/-! ## Spans as they are shown -/

/-- What leaves a literal open does so with backticks too. -/
theorem inside_backtickPairs (inside : (literals letterCase .doubled).Inside '\'' body) :
    (literals letterCase .doubled).Inside '\'' (backtickPairs body) := by
  induction inside with
  | nil => exact .nil
  | plain other _ ih =>
    rw [backtickPairs_plain (ne_quote_of_not_closes other)]
    exact .plain other ih
  | pair _ first second _ ih =>
    obtain rfl := closes_literals.mp first
    obtain rfl := closes_literals.mp second
    have backtick : (literals letterCase .doubled).closes '\'' '\x60' = false :=
      Bool.eq_false_iff.mpr fun closes => absurd (closes_literals.mp closes) (by decide)
    exact .plain backtick ih

/-- A region is shown as a region that ends in the same way. -/
theorem exists_inside_laterBacktickPairs
    (inside : (literals letterCase .doubled).Inside '\'' body) (last : kept = [] ∨ kept = ['\'']) :
    ∃ shown, (literals letterCase .doubled).Inside '\'' shown ∧
      laterBacktickPairs ('\'' :: (body ++ kept)) = '\'' :: (shown ++ kept) := by
  induction inside with
  | nil =>
    rcases last with rfl | rfl
    · exact ⟨[], .nil, rfl⟩
    · exact ⟨[], .nil, rfl⟩
  | @plain c rest other inside _ =>
    exact ⟨backtickPairs (c :: rest), inside_backtickPairs (.plain other inside),
      laterBacktickPairs_plain other inside last⟩
  | pair doubled first second _ ih =>
    obtain ⟨shown, insideShown, shownEq⟩ := ih
    obtain rfl := closes_literals.mp first
    obtain rfl := closes_literals.mp second
    refine ⟨'\'' :: '\'' :: shown, .pair doubled first second insideShown, ?_⟩
    rw [List.cons_append, List.cons_append, laterBacktickPairs_pair, shownEq]
    rfl

/-- A span with its text as it is shown. -/
def shownSpan (span : Span) : Span :=
  ⟨span.kind, spanWithLaterBackticks span⟩

/-- Spans that are shown begin with the same character. -/
theorem head?_texts_shownSpan {spans : List Span}
    (cut : (literals letterCase .doubled).WellCut spans) :
    (Span.texts (spans.map shownSpan)).head? = (Span.texts spans).head? := by
  cases cut with
  | nil => rfl
  | unquoted nonempty _ _ _ =>
    rw [List.map_cons, Span.texts_cons, Span.texts_cons,
      List.head?_append_of_ne_nil _ nonempty]
    exact List.head?_append_of_ne_nil _ nonempty
  | quoted quote _ _ _ _ =>
    obtain rfl := isQuote_literals.mp quote
    rfl
  | unterminated quote _ =>
    obtain rfl := isQuote_literals.mp quote
    rfl

/-- Well-cut spans are well cut as they are shown. -/
theorem wellCut_shownSpan {spans : List Span}
    (cut : (literals letterCase .doubled).WellCut spans) :
    (literals letterCase .doubled).WellCut (spans.map shownSpan) := by
  induction cut with
  | nil => exact .nil
  | unquoted nonempty plain maximal _ ih =>
    refine .unquoted nonempty plain ?_ ih
    intro next isNext
    rw [List.head?_map] at isNext
    obtain ⟨span, isHead, rfl⟩ := Option.map_eq_some_iff.mp isNext
    exact maximal span isHead
  | @quoted _ _ _ more quote inside closes ends cut ih =>
    obtain rfl := isQuote_literals.mp quote
    obtain rfl := closes_literals.mp closes
    obtain ⟨shown, insideShown, shownEq⟩ := exists_inside_laterBacktickPairs inside (.inr rfl)
    have endsShown : (literals letterCase .doubled).EndsBefore '\''
        (Span.texts (more.map shownSpan)) := by
      intro doubled c isHead
      rw [head?_texts_shownSpan cut] at isHead
      exact ends doubled c isHead
    have whole := WellCut.quoted quote insideShown closes endsShown ih
    rwa [← shownEq] at whole
  | unterminated quote inside =>
    obtain rfl := isQuote_literals.mp quote
    obtain ⟨shown, insideShown, shownEq⟩ := exists_inside_laterBacktickPairs inside (.inl rfl)
    rw [List.append_nil, List.append_nil] at shownEq
    have whole := WellCut.unterminated quote insideShown
    rwa [← shownEq] at whole

/-- The spans of a text with backticks are those of the text, as they are shown. -/
theorem spans_backtickEscapes (letterCase : LetterCase) (text : Text) :
    (literals letterCase .doubled).spans (backtickEscapes text) =
      ((literals letterCase .doubled).spans text).map shownSpan := by
  have cut := (literals letterCase .doubled).wellCut_spans text
  have shown := backtickEscapes_texts cut
  rw [spans_flatten] at shown
  have texts : Span.texts (((literals letterCase .doubled).spans text).map shownSpan) =
      ((literals letterCase .doubled).spans text).flatMap spanWithLaterBackticks :=
    List.flatMap_map _ _ _
  rw [shown, ← texts]
  exact (wellCut_shownSpan cut).spans_texts

/-- Unquoted spans are shown as they are. -/
theorem unquotedTexts_shownSpan (spans : List Span) :
    ((spans.map shownSpan).filter (·.kind = .unquoted)).map (·.text) =
      (spans.filter (·.kind = .unquoted)).map (·.text) := by
  induction spans with
  | nil => rfl
  | cons span more ih =>
    obtain ⟨kind, text⟩ := span
    cases kind with
    | unquoted => exact congrArg (text :: ·) ih
    | quoted => exact ih
    | unterminated => exact ih

/-- Writing backticks for doubled quotes a second time changes nothing, and it never touches text
outside literals, whether case is significant or not and whatever the escape. -/
theorem backtickEscapes_keeps_unquoted (letterCase : LetterCase) (escape : Escape) (text : Text) :
    backtickEscapes (backtickEscapes text) = backtickEscapes text ∧
      (literals letterCase escape).unquotedTexts (backtickEscapes text) =
        (literals letterCase escape).unquotedTexts text := by
  have doubled : (literals letterCase .doubled).unquotedTexts (backtickEscapes text) =
      (literals letterCase .doubled).unquotedTexts text := by
    rw [unquotedTexts, spans_backtickEscapes, unquotedTexts_shownSpan]
    rfl
  refine ⟨backtickEscapesFrom_twice false text, ?_⟩
  cases escape with
  | doubled => exact doubled
  | none =>
    have escapes (any : Text) : (literals letterCase .doubled).unquotedTexts any =
        (literals letterCase .none).unquotedTexts any :=
      unquotedTexts_escape (literals letterCase .none) any
    rw [← escapes, ← escapes, doubled]

/-- The first literal keeps the escape at its start, and the last one stays open. -/
example :
    backtickEscapes "''a'''b''c'd'e''".toList = "''a'''b\x60c'd'e\x60".toList ∧
      (literals .sensitive .none).unquotedTexts "''a'''b''c'd'e''".toList = [['a'], ['d']] := by
  decide +kernel

end QuotedText.Sql
