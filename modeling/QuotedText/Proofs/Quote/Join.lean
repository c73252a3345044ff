import QuotedText.Proofs.Quote.Partition
import QuotedText.Proofs.Quote.Split

/-!
# Joined texts

Where a text is joined to another, a region may go on over the seam, and so may unquoted text.
`QuoteStyle.Seam` says of two lists of spans that neither happens. Over a seam the spans of the
joined text are the spans of both parts (`QuoteStyle.spans_append`), and a token that matches no
quote cuts the joined text where it cuts the parts (`QuoteStyle.pieces_append`).
-/

namespace QuotedText

namespace Span

/-- The text of two lists of spans is that of the first and then that of the second. -/
@[simp] theorem texts_append (before after : List Span) :
    texts (before ++ after) = texts before ++ texts after :=
  List.flatMap_append

end Span

namespace QuoteStyle

variable {style : QuoteStyle}

/-! ## Spans -/

/-- No span goes on from the first list into the second. -/
def Seam (style : QuoteStyle) (before after : List Span) : Prop :=
  ∀ last ∈ before.getLast?,
    match last.kind with
    | .unquoted => ∀ next ∈ after.head?, next.kind ≠ .unquoted
    | .quoted => ∀ opener ∈ last.text.head?, style.EndsBefore opener (Span.texts after)
    | .unterminated => after = []

/-- Well-cut lists are joined at a seam. -/
theorem WellCut.append {before after : List Span} (cut : style.WellCut before)
    (cutAfter : style.WellCut after) (seam : style.Seam before after) :
    style.WellCut (before ++ after) := by
  induction cut with
  | nil => exact cutAfter
  | @unquoted text more nonempty plain maximal cut ih =>
    cases more with
    | nil => exact .unquoted nonempty plain (seam ⟨.unquoted, text⟩ rfl) cutAfter
    | cons next more => exact .unquoted nonempty plain maximal (ih seam)
  | @quoted opener close body more quote inside closes ends cut ih =>
    cases more with
    | nil =>
      have endsHere := seam ⟨.quoted, opener :: (body ++ [close])⟩ rfl opener rfl
      exact .quoted quote inside closes endsHere cutAfter
    | cons next more =>
      have sameHead : (Span.texts (next :: more ++ after)).head? =
          (Span.texts (next :: more)).head? := by
        obtain ⟨c, rest, nextEq⟩ := List.exists_cons_of_ne_nil cut.text_ne_nil
        simp [nextEq]
      refine .quoted quote inside closes ?_ (ih seam)
      intro doubled c isHead
      rw [List.append_eq, sameHead] at isHead
      exact ends doubled c isHead
  | @unterminated opener body quote inside =>
    have nothing : after = [] := seam ⟨.unterminated, opener :: body⟩ rfl
    rw [nothing]
    exact .unterminated quote inside

/-- Where a well-cut list is taken apart, there is a seam. -/
theorem WellCut.seam {before after : List Span} (cut : style.WellCut (before ++ after)) :
    style.Seam before after := by
  intro last isLast
  obtain ⟨former, rfl⟩ := List.getLast?_eq_some_iff.mp isLast
  rw [List.append_assoc, List.singleton_append] at cut
  cases cut.of_append with
  | unquoted _ _ maximal _ => exact maximal
  | @quoted opener _ _ _ _ _ _ ends _ =>
    intro opener' isOpener
    obtain rfl := Option.some.inj isOpener
    exact ends
  | unterminated => rfl

/-- Over a seam, the spans of a joined text are those of its parts. -/
theorem spans_append {front rest : Text}
    (seam : style.Seam (style.spans front) (style.spans rest)) :
    style.spans (front ++ rest) = style.spans front ++ style.spans rest := by
  have joined := ((style.wellCut_spans front).append (style.wellCut_spans rest) seam).spans_texts
  rwa [Span.texts_append, spans_flatten, spans_flatten] at joined

/-- The last quoted span of a well-cut list ends with the quote that opened it. -/
theorem WellCut.exists_close {spans : List Span} (cut : style.WellCut spans) {last : Span}
    (isLast : last ∈ spans.getLast?) (quoted : last.kind = .quoted) :
    ∃ opener close, last.text.head? = some opener ∧ style.closes opener close ∧
      (Span.texts spans).getLast? = some close := by
  obtain ⟨before, rfl⟩ := List.getLast?_eq_some_iff.mp isLast
  obtain ⟨kind, text⟩ := last
  cases cut.of_append with
  | unquoted => contradiction
  | @quoted opener close body _ _ _ closes _ _ =>
    refine ⟨opener, close, rfl, closes, ?_⟩
    rw [Span.texts_append, Span.texts_singleton, ← List.cons_append,
      ← List.append_assoc, List.getLast?_concat]
  | unterminated => contradiction

/-- A text whose regions are closed meets a quote at a seam when its last character is another
one. -/
theorem seam_of_quote {front rest : Text}
    (closed : ∀ span ∈ style.spans front, span.kind ≠ .unterminated)
    (quote : ∀ q ∈ rest.head?, style.isQuote q)
    (apart : ∀ q ∈ rest.head?, ∀ c ∈ front.getLast?, style.closes q c = false) :
    style.Seam (style.spans front) (style.spans rest) := by
  intro last isLast
  cases kind : last.kind with
  | unquoted =>
    intro next isNext unquoted
    obtain ⟨q, isHead, -, unquotedIff⟩ := exists_head_spans isNext
    have plain := unquotedIff.mp unquoted
    rw [quote q isHead] at plain
    contradiction
  | quoted =>
    obtain ⟨opener, close, opens, closes, ends⟩ :=
      (style.wellCut_spans front).exists_close isLast kind
    rw [spans_flatten] at ends
    intro opener' isOpener
    obtain rfl : opener = opener' := Option.some.inj (opens.symm.trans isOpener)
    intro _ q isHead
    rw [spans_flatten] at isHead
    -- A quote that goes on with the region would be the same letter as its closing quote.
    by_contra same
    have sameOpener : style.letterCase.same q opener := by simpa [QuoteStyle.closes] using same
    have sameClose : style.closes q close :=
      LetterCase.same_trans closes (LetterCase.same_symm sameOpener)
    rw [apart q isHead close ends] at sameClose
    contradiction
  | unterminated => exact absurd kind (closed last (List.mem_of_getLast? isLast))

/-! ## Pieces -/

variable {token : Pattern} {options : SplitOptions}

/-- Gluing something to pieces leaves pieces. -/
theorem glue_ne_nil {pieces : List Text} (former : List Text) (nonempty : pieces ≠ []) :
    glue former pieces ≠ [] := by
  fun_induction glue former pieces <;> simp_all

/-- Spans have at least one piece. -/
theorem cutSpans_ne_nil (token : Pattern) (options : SplitOptions) (spans : List Span) :
    cutSpans token options spans ≠ [] := by
  fun_induction cutSpans token options spans with
  | case1 => simp
  | case2 text more ih => exact glue_ne_nil _ ih
  | case3 text more ih => exact glue_ne_nil _ ih
  | case4 text more ih => exact glue_ne_nil _ ih

/-- The last piece is glued to the first that follows, and the others stay. -/
theorem glue_concat (before after : List Text) (last next : Text) :
    glue (before ++ [last]) (next :: after) = before ++ (last ++ next) :: after := by
  induction before with
  | nil => rfl
  | cons piece before ih =>
    rw [List.cons_append, glue_cons (by simp), ih, List.cons_append]

/-- Pieces are glued in any order. -/
theorem glue_assoc (former : List Text) {middle : List Text} (pieces : List Text)
    (nonempty : middle ≠ []) :
    glue (glue former middle) pieces = glue former (glue middle pieces) := by
  induction former with
  | nil => rfl
  | cons piece former ih =>
    cases former with
    | cons next former =>
      have more : next :: former ≠ [] := List.cons_ne_nil next former
      have glued : glue (next :: former) middle ≠ [] := glue_ne_nil _ nonempty
      rw [glue_cons more, glue_cons glued, ih, glue_cons more]
    | nil =>
      obtain ⟨first, more, rfl⟩ := List.exists_cons_of_ne_nil nonempty
      cases more with
      | cons next more => rfl
      | nil => cases pieces <;> simp [glue]

/-- Spans are cut where the parts of their list are. -/
theorem cutSpans_append (token : Pattern) (options : SplitOptions) (before after : List Span) :
    cutSpans token options (before ++ after) =
      glue (cutSpans token options before) (cutSpans token options after) := by
  induction before with
  | nil =>
    obtain ⟨first, more, equal⟩ :=
      List.exists_cons_of_ne_nil (cutSpans_ne_nil token options after)
    simp [cutSpans, glue, equal]
  | cons span before ih =>
    have nonempty := cutSpans_ne_nil token options before
    obtain ⟨kind, text⟩ := span
    cases kind <;> rw [List.cons_append, cutSpans, cutSpans, ih, glue_assoc _ _ nonempty]

/-- A token that matches no quote cuts a text where it cuts the spans of the text. -/
theorem pieces_eq_cutSpans
    (apart : ∀ p ∈ token.text, ∀ c, options.tokenCase.same c p → style.isQuote c = false)
    (text : Text) :
    style.pieces token options text = cutSpans token options (style.spans text) := by
  have cut := (style.wellCut_spans text).pieces_texts token options apart
  rwa [spans_flatten] at cut

/-- Over a seam, a joined text is cut where its parts are, when the token matches no quote. -/
theorem pieces_append {front rest : Text}
    (apart : ∀ p ∈ token.text, ∀ c, options.tokenCase.same c p → style.isQuote c = false)
    (seam : style.Seam (style.spans front) (style.spans rest)) :
    style.pieces token options (front ++ rest) =
      glue (style.pieces token options front) (style.pieces token options rest) := by
  rw [pieces_eq_cutSpans apart, pieces_eq_cutSpans apart, pieces_eq_cutSpans apart,
    spans_append seam, cutSpans_append]

end QuoteStyle

end QuotedText
