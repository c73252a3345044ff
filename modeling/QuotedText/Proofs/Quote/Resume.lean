import QuotedText.Proofs.Quote.Join
import QuotedText.Proofs.Quote.Prefix

/-!
# Scans that are cut and taken up again

What a scan carries from one character to the next is the region it is in, and all it looks ahead
for is the second half of a doubled quote. So where no region is open and the next character does
not open the last one again, a text may be cut in two and each part scanned by itself
(`QuoteStyle.Resumes`): the spans of the parts are those of the text, up to unquoted text that the
cut goes through. Anywhere else they are not (`QuoteStyle.locatedSpans_append_iff`).
-/

namespace QuotedText

namespace Span

/-! ## Spans at other positions -/

/-- A located span with `offset` bytes more before it. -/
def Located.shift (offset : Nat) (span : Located) : Located :=
  { span with start := offset + span.start, stop := offset + span.stop }

/-- Spans with more bytes before the first of them are the same spans farther back. -/
theorem map_shift_located (offset start : Nat) (spans : List Span) :
    (located start spans).map (·.shift offset) = located (offset + start) spans := by
  induction spans generalizing start with
  | nil => rfl
  | cons span more ih =>
    rw [located, List.map_cons, ih, located, Nat.add_assoc]
    simp only [Located.shift]

/-! ## Spans put together -/

/-- Located spans followed by others, where the last of the former and the first of the latter are
one when both are unquoted. -/
def putTogether (before after : List Located) : List Located :=
  match before.getLast?, after with
  | some ⟨start, _, ⟨.unquoted, text⟩⟩, ⟨_, stop, ⟨.unquoted, more⟩⟩ :: later =>
    before.dropLast ++ ⟨start, stop, ⟨.unquoted, text ++ more⟩⟩ :: later
  | _, _ => before ++ after

/-- Unquoted text on both sides is put together. -/
theorem putTogether_unquoted (before later : List Located) (start stop start' stop' : Nat)
    (text more : Text) :
    putTogether (before ++ [⟨start, stop, ⟨.unquoted, text⟩⟩])
        (⟨start', stop', ⟨.unquoted, more⟩⟩ :: later) =
      before ++ ⟨start, stop', ⟨.unquoted, text ++ more⟩⟩ :: later := by
  simp [putTogether]

/-- Where one of the spans that meet is a region, both are left as they are. -/
theorem putTogether_apart {before after : List Span} (start start' : Nat)
    (apart : ∀ last ∈ before.getLast?, last.kind = .unquoted →
      ∀ next ∈ after.head?, next.kind ≠ .unquoted) :
    putTogether (located start before) (located start' after) =
      located start before ++ located start' after := by
  rw [← map_span_located start before, ← map_span_located start' after] at apart
  generalize located start before = before, located start' after = after at apart ⊢
  unfold putTogether
  split
  · rename_i start stop text _ _ _ _ isLast
    have last : ⟨.unquoted, text⟩ ∈ (before.map (·.span)).getLast? := by
      rw [List.getLast?_map, isLast]
      rfl
    exact absurd rfl (apart _ last rfl _ rfl)
  · rfl

end Span

namespace QuoteStyle

variable {style : QuoteStyle} {front rest : Text}

/-- A scan that is cut behind `front` can be taken up again before `rest`. -/
structure Resumes (style : QuoteStyle) (front rest : Text) : Prop where
  /-- No region is open. -/
  closed : ∀ span ∈ style.spans front, span.kind ≠ .unterminated
  /-- Where a doubled quote leaves a region open, the rest does not double the quote that has closed
  the last region. -/
  ends : style.escape = .doubled → ∀ last ∈ (style.spans front).getLast?, last.kind = .quoted →
    ∀ opener ∈ last.text.head?, ∀ c ∈ rest.head?, style.closes opener c = false

/-- Where a scan can be taken up again and the cut does not go through unquoted text, there is a
seam. -/
theorem Resumes.seam (resumes : style.Resumes front rest)
    (apart : ∀ last ∈ (style.spans front).getLast?, last.kind = .unquoted →
      ∀ next ∈ (style.spans rest).head?, next.kind ≠ .unquoted) :
    style.Seam (style.spans front) (style.spans rest) := by
  intro last isLast
  cases kind : last.kind with
  | unquoted => exact apart last isLast kind
  | quoted =>
    intro opener isOpener doubled c isHead
    rw [spans_flatten] at isHead
    exact resumes.ends doubled last isLast kind opener isOpener c isHead
  | unterminated => exact absurd kind (resumes.closed last (List.mem_of_getLast? isLast))

/-- Unquoted text that a cut goes through is one span of the whole text. -/
theorem spans_append_of_unquoted {before more : List Span} {text text' : Text}
    (frontSpans : style.spans front = before ++ [⟨.unquoted, text⟩])
    (restSpans : style.spans rest = ⟨.unquoted, text'⟩ :: more) :
    style.spans (front ++ rest) = before ++ ⟨.unquoted, text ++ text'⟩ :: more := by
  have cut := style.wellCut_spans front
  have cutRest := style.wellCut_spans rest
  have flat := style.spans_flatten front
  have flatRest := style.spans_flatten rest
  rw [frontSpans] at cut flat
  rw [restSpans] at cutRest flatRest
  have stays := cut.spans_append_text (List.cons_ne_nil _ []) rest
  rw [flat, Span.texts_singleton] at stays
  cases cut.of_append with
  | unquoted nonempty plain _ _ =>
    cases cutRest with
    | unquoted _ plainRest maximal cutMore =>
      have plainBoth : ∀ c ∈ text ++ text', style.isQuote c = false := by
        intro c member
        rcases List.mem_append.mp member with inFront | inRest
        · exact plain c inFront
        · exact plainRest c inRest
      have joined := WellCut.unquoted (List.append_ne_nil_of_left_ne_nil nonempty text') plainBoth
        maximal cutMore
      rw [stays, ← flatRest, Span.texts_cons, ← List.append_assoc]
      have spansEq := joined.spans_texts
      rw [Span.texts_cons] at spansEq
      rw [spansEq]

/-- Where a scan can be taken up again, the spans of the parts put together are those of the whole
text. -/
theorem Resumes.locatedSpans_append (resumes : style.Resumes front rest) :
    style.locatedSpans (front ++ rest) =
      Span.putTogether (style.locatedSpans front)
        ((style.locatedSpans rest).map (·.shift front.byteLength)) := by
  rw [locatedSpans, locatedSpans, locatedSpans, Span.map_shift_located, Nat.add_zero]
  by_cases through : ∃ before text text' more, style.spans front = before ++ [⟨.unquoted, text⟩] ∧
      style.spans rest = ⟨.unquoted, text'⟩ :: more
  · obtain ⟨before, text, text', more, frontSpans, restSpans⟩ := through
    have flat := style.spans_flatten front
    rw [frontSpans] at flat
    rw [spans_append_of_unquoted frontSpans restSpans, frontSpans, restSpans, Span.located_append,
      Span.located_append, Span.located, Span.located, Span.located, Span.located,
      Span.putTogether_unquoted, ← flat]
    simp [Nat.add_assoc]
  · have apart : ∀ last ∈ (style.spans front).getLast?, last.kind = .unquoted →
        ∀ next ∈ (style.spans rest).head?, next.kind ≠ .unquoted := by
      rintro ⟨_, text⟩ isLast rfl ⟨_, text'⟩ isNext rfl
      obtain ⟨before, frontSpans⟩ := List.getLast?_eq_some_iff.mp isLast
      obtain ⟨more, restSpans⟩ := List.head?_eq_some_iff.mp isNext
      exact through ⟨before, text, text', more, frontSpans, restSpans⟩
    rw [Span.putTogether_apart 0 _ apart, spans_append (resumes.seam apart), Span.located_append,
      spans_flatten, Nat.zero_add]

/-- Where spans put together are those of the whole text, they are well cut behind a region. -/
theorem wellCut_append_of_locatedSpans {last : Span}
    (whole : style.locatedSpans (front ++ rest) =
      Span.putTogether (style.locatedSpans front)
        ((style.locatedSpans rest).map (·.shift front.byteLength)))
    (isLast : last ∈ (style.spans front).getLast?) (region : last.kind ≠ .unquoted) :
    style.WellCut (style.spans front ++ style.spans rest) := by
  have apart : ∀ span ∈ (style.spans front).getLast?, span.kind = .unquoted →
      ∀ next ∈ (style.spans rest).head?, next.kind ≠ .unquoted := by
    intro span isLast' unquoted
    obtain rfl := Option.some.inj (isLast.symm.trans isLast')
    exact absurd unquoted region
  rw [locatedSpans, locatedSpans, locatedSpans, Span.map_shift_located, Nat.add_zero,
    Span.putTogether_apart 0 _ apart] at whole
  have spansEq := congrArg (List.map (·.span)) whole
  rw [List.map_append, Span.map_span_located, Span.map_span_located, Span.map_span_located]
    at spansEq
  rw [← spansEq]
  exact style.wellCut_spans (front ++ rest)

/-- Where spans put together are those of the whole text, a scan can be taken up again before what
is left of it. -/
theorem resumes_of_locatedSpans_append (nonempty : rest ≠ [])
    (whole : style.locatedSpans (front ++ rest) =
      Span.putTogether (style.locatedSpans front)
        ((style.locatedSpans rest).map (·.shift front.byteLength))) :
    style.Resumes front rest := by
  constructor
  · intro span member unterminated
    have isLast := (style.wellCut_spans front).getLast?_of_unterminated member unterminated
    have region : span.kind ≠ .unquoted := by simp [unterminated]
    have seam := (wellCut_append_of_locatedSpans whole isLast region).seam span isLast
    rw [unterminated] at seam
    have flat := style.spans_flatten rest
    rw [seam] at flat
    exact nonempty flat.symm
  · intro doubled last isLast quoted opener isOpener c isHead
    have region : last.kind ≠ .unquoted := by simp [quoted]
    have seam := (wellCut_append_of_locatedSpans whole isLast region).seam last isLast
    rw [quoted] at seam
    refine seam opener isOpener doubled c ?_
    rwa [spans_flatten]

/-- The spans of two texts put together are the spans of the joined text when and only when a scan
that is cut behind the first can be taken up again before the second, or the second is empty. -/
theorem locatedSpans_append_iff (style : QuoteStyle) (front rest : Text) :
    style.locatedSpans (front ++ rest) =
        Span.putTogether (style.locatedSpans front)
          ((style.locatedSpans rest).map (·.shift front.byteLength)) ↔
      rest = [] ∨ style.Resumes front rest := by
  constructor
  · intro whole
    by_cases nothing : rest = []
    · exact .inl nothing
    · exact .inr (resumes_of_locatedSpans_append nothing whole)
  · rintro (rfl | resumes)
    · have apart : ∀ last ∈ (style.spans front).getLast?, last.kind = .unquoted →
          ∀ next ∈ ([] : List Span).head?, next.kind ≠ .unquoted := by
        simp
      rw [List.append_nil, locatedSpans, locatedSpans, spans_nil, Span.map_shift_located,
        Span.putTogether_apart 0 _ apart, Span.located, List.append_nil]
    · exact resumes.locatedSpans_append

/-- The cut goes through unquoted text, and what follows it starts behind five bytes. -/
example :
    QuoteStyle.sql.locatedSpans "'é'yz'w'".toList =
        [⟨0, 4, ⟨.quoted, "'é'".toList⟩⟩, ⟨4, 6, ⟨.unquoted, "yz".toList⟩⟩,
          ⟨6, 9, ⟨.quoted, "'w'".toList⟩⟩] ∧
      Span.putTogether (QuoteStyle.sql.locatedSpans "'é'y".toList)
          ((QuoteStyle.sql.locatedSpans "z'w'".toList).map (·.shift 5)) =
        [⟨0, 4, ⟨.quoted, "'é'".toList⟩⟩, ⟨4, 6, ⟨.unquoted, "yz".toList⟩⟩,
          ⟨6, 9, ⟨.quoted, "'w'".toList⟩⟩] := by
  decide +kernel

end QuoteStyle

end QuotedText
