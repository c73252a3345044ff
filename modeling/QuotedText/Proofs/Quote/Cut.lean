import QuotedText.Quote.Span

/-!
# Well-cut span lists

What a region may hold is a matter of its text alone (`QuoteStyle.Inside`), and so is where it ends
(`QuoteStyle.EndsBefore`): reading a region is characterized by `QuoteStyle.closing?_closed` and
`QuoteStyle.closing?_cases`. A list of spans is well cut when every span has the form of its kind
next to what follows it. The spans of a text are well cut (`QuoteStyle.wellCut_spans`), and a
well-cut list is the list of the spans of its text (`QuoteStyle.WellCut.spans_texts`), so to find
the spans of a text it is enough to cut it well.
-/

namespace QuotedText.QuoteStyle

variable {style : QuoteStyle}

/-! ## Regions -/

/-- What may stand behind `opener` in a region that is still open. -/
inductive Inside (style : QuoteStyle) (opener : Char) : Text → Prop
  /-- The region has just been opened. -/
  | nil : Inside style opener []
  /-- A character other than the quote leaves the region open. -/
  | plain {c : Char} {rest : Text} (other : style.closes opener c = false)
      (inside : Inside style opener rest) : Inside style opener (c :: rest)
  /-- A doubled quote leaves the region open where the style has such an escape. -/
  | pair {c d : Char} {rest : Text} (doubled : style.escape = .doubled)
      (first : style.closes opener c) (second : style.closes opener d)
      (inside : Inside style opener rest) : Inside style opener (c :: d :: rest)

/-- A closing quote ends its region before `rest` when it is not the first half of a doubled
one. -/
def EndsBefore (style : QuoteStyle) (opener : Char) (rest : Text) : Prop :=
  style.escape = .doubled → ∀ c ∈ rest.head?, style.closes opener c = false

/-- A character other than the quote is passed over. -/
theorem closing?_plain {opener c : Char} {rest : Text} (other : style.closes opener c = false) :
    style.closing? opener (c :: rest) =
      (style.closing? opener rest).map fun (body, after) => (c :: body, after) := by
  rw [closing?.eq_def]
  simp [other]

/-- A doubled quote is passed over. -/
theorem closing?_pair {opener c d : Char} {rest : Text} (doubled : style.escape = .doubled)
    (first : style.closes opener c) (second : style.closes opener d) :
    style.closing? opener (c :: d :: rest) =
      (style.closing? opener rest).map fun (body, after) => (c :: d :: body, after) := by
  rw [closing?.eq_def]
  simp [first, second, doubled]

/-- A quote that is not doubled closes the region. -/
theorem closing?_close {opener close : Char} {rest : Text} (closes : style.closes opener close)
    (ends : style.EndsBefore opener rest) :
    style.closing? opener (close :: rest) = some ([close], rest) := by
  rw [closing?.eq_def]
  simp only [closes, ↓reduceIte]
  split
  · rename_i d rest' doubled
    have other : style.closes opener d = false := ends doubled d rfl
    simp [other]
  · rfl

/-- The region ends with the first quote that is not doubled. -/
theorem closing?_closed {opener close : Char} {body rest : Text}
    (inside : style.Inside opener body) (closes : style.closes opener close)
    (ends : style.EndsBefore opener rest) :
    style.closing? opener (body ++ close :: rest) = some (body ++ [close], rest) := by
  induction inside with
  | nil => exact closing?_close closes ends
  | plain other _ ih => simp [closing?_plain other, ih]
  | pair doubled first second _ ih => simp [closing?_pair doubled first second, ih]

/-- A region without such a quote does not end. -/
theorem closing?_open {opener : Char} {body : Text} (inside : style.Inside opener body) :
    style.closing? opener body = none := by
  induction inside with
  | nil => rfl
  | plain other _ ih => simp [closing?_plain other, ih]
  | pair doubled first second _ ih => simp [closing?_pair doubled first second, ih]

/-- What is found behind an opening quote: a region with its closing quote, or one that is open to
the end of the text. -/
theorem closing?_cases (style : QuoteStyle) (opener : Char) (text : Text) :
    (∃ body close rest, text = body ++ close :: rest ∧ style.Inside opener body ∧
      style.closes opener close ∧ style.EndsBefore opener rest) ∨ style.Inside opener text := by
  fun_induction closing? style opener text with
  | case1 => exact .inr .nil
  | case2 c first d rest doubled second ih =>
    rcases ih with ⟨body, close, after, rfl, inside, closes, ends⟩ | inside
    · exact .inl ⟨c :: d :: body, close, after, rfl, .pair doubled first second inside, closes,
        ends⟩
    · exact .inr (.pair doubled first second inside)
  | case3 c first d rest doubled second =>
    refine .inl ⟨[], c, d :: rest, rfl, .nil, first, ?_⟩
    intro _ next isNext
    obtain rfl : d = next := by simpa using isNext
    simpa using second
  | case4 c rest first single =>
    refine .inl ⟨[], c, rest, rfl, .nil, first, ?_⟩
    intro doubled next isNext
    obtain ⟨rest', rfl⟩ := List.head?_eq_some_iff.mp isNext
    exact absurd rfl (single next rest' doubled)
  | case5 c rest other ih =>
    have plain : style.closes opener c = false := by simpa using other
    rcases ih with ⟨body, close, after, rfl, inside, closes, ends⟩ | inside
    · exact .inl ⟨c :: body, close, after, rfl, .plain plain inside, closes, ends⟩
    · exact .inr (.plain plain inside)

/-- No region starts at a character that is no quote. -/
theorem region?_unquoted {c : Char} {rest : Text} (plain : style.isQuote c = false) :
    style.region? (c :: rest) = none := by
  rw [region?, if_neg (by simp [plain])]

/-- No region starts at the end of a text or at a character that is no quote. -/
theorem not_isQuote_of_region? {c : Char} {rest : Text} (none : style.region? (c :: rest) = none) :
    style.isQuote c = false := by
  cases quote : style.isQuote c with
  | false => rfl
  | true =>
    rw [region?, if_pos quote] at none
    split at none <;> contradiction

/-- A region starts at a quote. -/
theorem isQuote_of_region? {c : Char} {rest : Text} {region : Region}
    (found : style.region? (c :: rest) = some region) : style.isQuote c := by
  cases quote : style.isQuote c with
  | true => rfl
  | false =>
    rw [region?_unquoted quote] at found
    contradiction

/-- A region with a closing quote is read up to that quote. -/
theorem region?_closed {opener close : Char} {body rest : Text} (quote : style.isQuote opener)
    (inside : style.Inside opener body) (closes : style.closes opener close)
    (ends : style.EndsBefore opener rest) :
    style.region? (opener :: (body ++ close :: rest)) =
      some ⟨opener :: (body ++ [close]), rest, true⟩ := by
  rw [region?, if_pos quote, closing?_closed inside closes ends]

/-- A region without a closing quote is read up to the end of the text. -/
theorem region?_open {opener : Char} {body : Text} (quote : style.isQuote opener)
    (inside : style.Inside opener body) :
    style.region? (opener :: body) = some ⟨opener :: body, [], false⟩ := by
  rw [region?, if_pos quote, closing?_open inside]

/-! ## Spans -/

/-- Every span of the list has the form of its kind next to the spans that follow it. -/
inductive WellCut (style : QuoteStyle) : List Span → Prop
  /-- There is nothing to cut. -/
  | nil : WellCut style []
  /-- Unquoted text holds no quote and goes on to the next region. -/
  | unquoted {text : Text} {more : List Span} (nonempty : text ≠ [])
      (plain : ∀ c ∈ text, style.isQuote c = false)
      (maximal : ∀ next ∈ more.head?, next.kind ≠ .unquoted) (cut : WellCut style more) :
      WellCut style (⟨.unquoted, text⟩ :: more)
  /-- A region ends with the first quote that is not doubled. -/
  | quoted {opener close : Char} {body : Text} {more : List Span} (quote : style.isQuote opener)
      (inside : style.Inside opener body) (closes : style.closes opener close)
      (ends : style.EndsBefore opener (Span.texts more)) (cut : WellCut style more) :
      WellCut style (⟨.quoted, opener :: (body ++ [close])⟩ :: more)
  /-- Nothing follows a region without such a quote. -/
  | unterminated {opener : Char} {body : Text} (quote : style.isQuote opener)
      (inside : style.Inside opener body) : WellCut style [⟨.unterminated, opener :: body⟩]

/-- No text has no spans. -/
@[simp] theorem spans_nil (style : QuoteStyle) : style.spans [] = [] := by
  rw [spans]

/-- A region at the head of a text is its first span. -/
theorem spans_region {text : Text} {region : Region} (found : style.region? text = some region) :
    style.spans text = region.span :: style.spans region.rest := by
  cases text with
  | nil => contradiction
  | cons c rest =>
    rw [spans]
    split
    · rename_i region' found'
      obtain rfl : region = region' := by simpa [found] using found'
      rfl
    · rename_i none
      rw [none] at found
      contradiction

/-- A character that is no quote joins the spans of what follows it. -/
theorem spans_unquoted {c : Char} {rest : Text} (plain : style.isQuote c = false) :
    style.spans (c :: rest) = Span.consUnquoted c (style.spans rest) := by
  rw [spans]
  split
  · rename_i region found
    rw [region?_unquoted plain] at found
    contradiction
  · rfl

/-- A character that is no quote keeps a list well cut. -/
theorem WellCut.consUnquoted {c : Char} {spans : List Span} (plain : style.isQuote c = false)
    (cut : style.WellCut spans) : style.WellCut (Span.consUnquoted c spans) := by
  cases cut with
  | nil => exact .unquoted (by simp) (by simpa using plain) (by simp) .nil
  | unquoted nonempty others maximal cut =>
    exact .unquoted (by simp) (by simpa using ⟨plain, others⟩) maximal cut
  | quoted quote inside closes ends cut =>
    exact .unquoted (by simp) (by simpa using plain) (by simp)
      (.quoted quote inside closes ends cut)
  | unterminated quote inside =>
    exact .unquoted (by simp) (by simpa using plain) (by simp) (.unterminated quote inside)

/-- The spans of a text are well cut. -/
theorem wellCut_spans (style : QuoteStyle) (text : Text) : style.WellCut (style.spans text) := by
  fun_induction spans style text with
  | case1 => exact .nil
  | case2 opener rest region found ih =>
    have quote := isQuote_of_region? found
    rcases closing?_cases style opener rest with
      ⟨body, close, after, rfl, inside, closes, ends⟩ | inside
    · obtain rfl := Option.some.inj ((region?_closed quote inside closes ends).symm.trans found)
      refine .quoted quote inside closes ?_ ih
      rwa [spans_flatten]
    · obtain rfl := Option.some.inj ((region?_open quote inside).symm.trans found)
      simpa [Region.span] using WellCut.unterminated quote inside
  | case3 c rest none ih => exact ih.consUnquoted (not_isQuote_of_region? none)

/-- Unquoted text goes on to a quote or to the end of the text. -/
theorem WellCut.isQuote_head {text : Text} {more : List Span}
    (cut : style.WellCut (⟨.unquoted, text⟩ :: more)) :
    ∀ c ∈ (Span.texts more).head?, style.isQuote c := by
  cases cut with
  | unquoted _ _ maximal cut =>
    intro c isHead
    cases cut with
    | nil => contradiction
    | unquoted => exact absurd rfl (maximal _ rfl)
    | quoted quote _ _ _ _ =>
      obtain rfl := Option.some.inj isHead
      exact quote
    | unterminated quote _ =>
      obtain rfl := Option.some.inj isHead
      exact quote

/-- Unquoted text before spans of which the first is a region is a span of its own. -/
theorem spans_append_unquoted {text rest : Text} (nonempty : text ≠ [])
    (plain : ∀ c ∈ text, style.isQuote c = false)
    (maximal : ∀ next ∈ (style.spans rest).head?, next.kind ≠ .unquoted) :
    style.spans (text ++ rest) = ⟨.unquoted, text⟩ :: style.spans rest := by
  induction text with
  | nil => contradiction
  | cons c text ih =>
    rw [List.cons_append, spans_unquoted (plain c List.mem_cons_self)]
    by_cases last : text = []
    · subst last
      rw [List.nil_append, Span.consUnquoted.eq_def]
      split
      · rename_i tail more split
        exact absurd rfl (maximal ⟨.unquoted, tail⟩ (by simp [split]))
      · rfl
    · rw [ih last fun d member => plain d (List.mem_cons_of_mem c member)]
      rfl

/-- A well-cut list is the list of the spans of its text. -/
theorem WellCut.spans_texts {spans : List Span} (cut : style.WellCut spans) :
    style.spans (Span.texts spans) = spans := by
  induction cut with
  | nil => simp
  | unquoted nonempty plain maximal _ ih =>
    rw [Span.texts_cons, spans_append_unquoted nonempty plain (by rwa [ih]), ih]
  | quoted quote inside closes ends _ ih =>
    have found := region?_closed quote inside closes ends
    rw [Span.texts_cons_closed, spans_region found, ih]
    rfl
  | unterminated quote inside =>
    rw [Span.texts_singleton, spans_region (region?_open quote inside)]
    simp [Region.span]

/-- The first span starts with the first character and is unquoted when that is no quote. -/
theorem exists_head_spans {text : Text} {first : Span}
    (isFirst : first ∈ (style.spans text).head?) :
    ∃ c, text.head? = some c ∧ first.text.head? = some c ∧
      (first.kind = .unquoted ↔ style.isQuote c = false) := by
  have cut := style.wellCut_spans text
  have flat := style.spans_flatten text
  generalize style.spans text = spans at cut flat isFirst
  subst flat
  cases cut with
  | nil => contradiction
  | @unquoted part more nonempty plain _ _ =>
    obtain ⟨c, tail, rfl⟩ := List.exists_cons_of_ne_nil nonempty
    obtain rfl := Option.some.inj isFirst
    exact ⟨c, rfl, rfl, by simpa using plain c List.mem_cons_self⟩
  | @quoted opener _ _ _ quote _ _ _ _ =>
    obtain rfl := Option.some.inj isFirst
    exact ⟨opener, rfl, rfl, by simp [quote]⟩
  | @unterminated opener _ quote _ =>
    obtain rfl := Option.some.inj isFirst
    exact ⟨opener, rfl, rfl, by simp [quote]⟩

end QuotedText.QuoteStyle
