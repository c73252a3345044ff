import QuotedText.Quote.Region

/-!
# Spans

The spans of a text cut it into quoted regions and the maximal runs of text between them. Their
texts concatenate to the text (`QuoteStyle.spans_flatten`), so the position of a span is the
number of bytes before it (`Span.located`).
-/

namespace QuotedText

/-- What a span of text is. -/
inductive SpanKind where
  /-- Text outside every region. -/
  | unquoted
  /-- A region with both its quotes. -/
  | quoted
  /-- A region that the end of the text ends. -/
  | unterminated
deriving DecidableEq, Repr

/-- A piece of text with its kind. -/
structure Span where
  /-- What the piece is. -/
  kind : SpanKind
  /-- The piece of text. -/
  text : Text
deriving DecidableEq, Repr

namespace Region

/-- The span that a region makes up. -/
def span (region : Region) : Span :=
  ⟨if region.terminated then .quoted else .unterminated, region.text⟩

end Region

namespace Span

/-- Puts an unquoted character before a list of spans; it joins the first when that is unquoted. -/
def consUnquoted (c : Char) : List Span → List Span
  | ⟨.unquoted, text⟩ :: more => ⟨.unquoted, c :: text⟩ :: more
  | more => ⟨.unquoted, [c]⟩ :: more

/-- A span with the byte positions of its start and its end. -/
structure Located where
  /-- The number of bytes before the span. -/
  start : Nat
  /-- The number of bytes before and in the span. -/
  stop : Nat
  /-- The span itself. -/
  span : Span
deriving DecidableEq, Repr

/-- The positions of a list of spans of which the first starts at byte `start`. -/
def located (start : Nat) : List Span → List Located
  | [] => []
  | span :: more =>
    let stop := start + span.text.byteLength
    ⟨start, stop, span⟩ :: located stop more

/-- The texts of a list of spans, one after the other. -/
def texts (spans : List Span) : Text :=
  spans.flatMap (·.text)

@[simp] theorem texts_nil : texts [] = [] := rfl

@[simp] theorem texts_cons (span : Span) (more : List Span) :
    texts (span :: more) = span.text ++ texts more := by
  simp [texts]

/-- One span has its own text. -/
theorem texts_singleton (span : Span) : texts [span] = span.text := by
  rw [texts_cons, texts_nil, List.append_nil]

/-- The text of a closed region stands before the texts of the spans behind it. -/
theorem texts_cons_closed (kind : SpanKind) (opener close : Char) (body : Text)
    (more : List Span) :
    texts (⟨kind, opener :: (body ++ [close])⟩ :: more) =
      opener :: (body ++ close :: texts more) := by
  rw [texts_cons, List.cons_append, List.append_assoc, List.singleton_append]

/-- An unquoted character stands before the texts of the spans. -/
@[simp] theorem texts_consUnquoted (c : Char) (spans : List Span) :
    texts (consUnquoted c spans) = c :: texts spans := by
  unfold consUnquoted
  split <;> simp

end Span

namespace QuoteStyle

/-- The spans of a text in order. -/
def spans (style : QuoteStyle) : Text → List Span
  | [] => []
  | c :: rest =>
    match _found : style.region? (c :: rest) with
    | some region => region.span :: spans style region.rest
    | none => Span.consUnquoted c (spans style rest)
termination_by text => text.length
decreasing_by
  · exact region?_shorter _found
  · simp

/-- The spans of a text with their byte positions. -/
def locatedSpans (style : QuoteStyle) (text : Text) : List Span.Located :=
  Span.located 0 (style.spans text)

/-- The spans lose no text. -/
theorem spans_flatten (style : QuoteStyle) (text : Text) :
    Span.texts (style.spans text) = text := by
  fun_induction spans style text with
  | case1 => rfl
  | case2 c rest region found ih =>
    rw [Span.texts_cons, ih]
    exact region?_append found
  | case3 c rest _ ih => rw [Span.texts_consUnquoted, ih]

end QuoteStyle

end QuotedText
