import QuotedText.Quote.Style

/-!
# Patterns

What is searched for is a text of at least one character. It matches the head of a text when the
two agree character by character under a `LetterCase`; the matched text may differ from the
pattern in its letters and in its number of bytes, but not in its number of characters
(`LetterCase.match?_length`).
-/

namespace QuotedText

/-- A text to search for, which has at least one character. -/
structure Pattern where
  /-- The text to search for. -/
  text : Text
  /-- There is something to search for. -/
  nonempty : text ≠ []

namespace Pattern

/-- A text as a pattern, unless it is empty. -/
def ofText? (text : Text) : Option Pattern :=
  if nonempty : text ≠ [] then some ⟨text, nonempty⟩ else none

/-- A text that is not empty is a pattern. -/
theorem ofText?_of_ne_nil {text : Text} (nonempty : text ≠ []) :
    ofText? text = some ⟨text, nonempty⟩ :=
  dif_pos nonempty

end Pattern

namespace LetterCase

/-- The part of a text at its head that agrees with `pattern` and the text that follows it. -/
def match? (letterCase : LetterCase) : Text → Text → Option (Text × Text)
  | [], text => some ([], text)
  | _ :: _, [] => none
  | p :: pattern, c :: text =>
    if letterCase.same c p then
      (match? letterCase pattern text).map fun (matched, rest) => (c :: matched, rest)
    else none

/-- The matched text and what follows it make up the text. -/
theorem match?_append {letterCase : LetterCase} {pattern text matched rest : Text}
    (h : letterCase.match? pattern text = some (matched, rest)) : matched ++ rest = text := by
  fun_induction match? letterCase pattern text generalizing matched rest with
  | case1 text =>
    simp only [Option.some.injEq, Prod.mk.injEq] at h
    simp [← h.1, ← h.2]
  | case2 => simp at h
  | case3 p pattern c text _ ih =>
    obtain ⟨⟨front, back⟩, found, equal⟩ := Option.map_eq_some_iff.mp h
    simp only [Prod.mk.injEq] at equal
    simp [← equal.1, ← equal.2, ih found]
  | case4 => simp at h

/-- The matched text has as many characters as the pattern. -/
theorem match?_length {letterCase : LetterCase} {pattern text matched rest : Text}
    (h : letterCase.match? pattern text = some (matched, rest)) :
    matched.length = pattern.length := by
  fun_induction match? letterCase pattern text generalizing matched rest with
  | case1 text =>
    simp only [Option.some.injEq, Prod.mk.injEq] at h
    simp [← h.1]
  | case2 => simp at h
  | case3 p pattern c text _ ih =>
    obtain ⟨⟨front, back⟩, found, equal⟩ := Option.map_eq_some_iff.mp h
    simp only [Prod.mk.injEq] at equal
    simp [← equal.1, ih found]
  | case4 => simp at h

end LetterCase

namespace Pattern

/-- The match of a pattern at the head of a text and the text that follows it. -/
def match? (pattern : Pattern) (letterCase : LetterCase) (text : Text) : Option (Text × Text) :=
  letterCase.match? pattern.text text

/-- What follows a match is shorter than the text. -/
theorem match?_shorter {pattern : Pattern} {letterCase : LetterCase} {text matched rest : Text}
    (h : pattern.match? letterCase text = some (matched, rest)) :
    rest.length < text.length := by
  have whole := congrArg List.length (LetterCase.match?_append h)
  have long := LetterCase.match?_length h
  have nonempty := List.length_pos_iff.mpr pattern.nonempty
  rw [List.length_append] at whole
  omega

end Pattern

end QuotedText
