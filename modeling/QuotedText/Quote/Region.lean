import QuotedText.Quote.Style

/-!
# Quoted regions

A region starts at a quote and ends with the next quote of the same key that is not doubled, or
with the text when there is none. `QuoteStyle.region?` reads the region at the head of a text.
`QuoteStyle.region?_append` says that a region and what follows it make up the text, and
`QuoteStyle.region?_shorter` that a region is never empty, which is what bounds every scan.
-/

namespace QuotedText

/-- A quoted region, its quotes included, and the text that follows it. -/
structure Region where
  /-- The region with its quotes. -/
  text : Text
  /-- What follows the region. -/
  rest : Text
  /-- Whether a closing quote was found. -/
  terminated : Bool
deriving DecidableEq, Repr

namespace QuoteStyle

/-- The part of a region after its opening quote, up to and with the closing quote, and what
follows it; nothing when no quote closes the region. -/
def closing? (style : QuoteStyle) (opener : Char) : Text → Option (Text × Text)
  | [] => none
  | c :: rest =>
    if style.closes opener c then
      match style.escape, rest with
      | .doubled, d :: rest' =>
        if style.closes opener d then
          (closing? style opener rest').map fun (body, after) => (c :: d :: body, after)
        else some ([c], rest)
      | _, _ => some ([c], rest)
    else (closing? style opener rest).map fun (body, after) => (c :: body, after)

/-- The quoted region at the head of a text, if a quote stands there. -/
def region? (style : QuoteStyle) : Text → Option Region
  | [] => none
  | opener :: rest =>
    if style.isQuote opener then
      match style.closing? opener rest with
      | some (body, after) => some ⟨opener :: body, after, true⟩
      | none => some ⟨opener :: rest, [], false⟩
    else none

/-- The body of a region and what follows it make up the text after the opening quote. -/
theorem closing?_append {style : QuoteStyle} {opener : Char} {text body after : Text}
    (h : style.closing? opener text = some (body, after)) : body ++ after = text := by
  fun_induction closing? style opener text generalizing body after with
  | case1 => simp at h
  | case2 c _ d rest' _ _ ih =>
    obtain ⟨⟨inner, tail⟩, found, equal⟩ := Option.map_eq_some_iff.mp h
    simp only [Prod.mk.injEq] at equal
    simp [← equal.1, ← equal.2, ih found]
  | case3 | case4 =>
    simp only [Option.some.injEq, Prod.mk.injEq] at h
    simp [← h.1, ← h.2]
  | case5 c rest _ ih =>
    obtain ⟨⟨inner, tail⟩, found, equal⟩ := Option.map_eq_some_iff.mp h
    simp only [Prod.mk.injEq] at equal
    simp [← equal.1, ← equal.2, ih found]

/-- A region and what follows it make up the text. -/
theorem region?_append {style : QuoteStyle} {text : Text} {region : Region}
    (h : style.region? text = some region) : region.text ++ region.rest = text := by
  unfold region? at h
  split at h
  · simp at h
  · split at h
    · split at h
      · rename_i found
        simp only [Option.some.injEq] at h
        simp [← h, closing?_append found]
      · simp only [Option.some.injEq] at h
        simp [← h]
    · simp at h

/-- A region has its opening quote at least. -/
theorem region?_text_ne_nil {style : QuoteStyle} {text : Text} {region : Region}
    (h : style.region? text = some region) : region.text ≠ [] := by
  unfold region? at h
  split at h
  · simp at h
  · split at h
    · split at h <;> (simp only [Option.some.injEq] at h; simp [← h])
    · simp at h

/-- What follows a region is shorter than the text. -/
theorem region?_shorter {style : QuoteStyle} {text : Text} {region : Region}
    (h : style.region? text = some region) : region.rest.length < text.length := by
  have whole := congrArg List.length (region?_append h)
  have nonempty := List.length_pos_iff.mpr (region?_text_ne_nil h)
  rw [List.length_append] at whole
  omega

end QuoteStyle

end QuotedText
