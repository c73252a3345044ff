import QuotedText.Text.Basic

/-!
# Character boundaries

A byte position in a text is a boundary when whole characters stand before it. Every character has
at least one byte, so the position of a boundary determines what stands before it
(`Text.eq_of_byteLength_eq`), and of two boundaries the later one has the front of the earlier one
before it (`Text.exists_between`).
-/

namespace QuotedText.Text

/-- A text holds `part` between two byte positions, which are both boundaries. -/
def Slice (text : Text) (start stop : Nat) (part : Text) : Prop :=
  ∃ front back, text = front ++ part ++ back ∧ front.byteLength = start ∧
    start + part.byteLength = stop

/-- Only the empty text has no bytes. -/
@[simp] theorem byteLength_eq_zero {text : Text} : text.byteLength = 0 ↔ text = [] := by
  cases text with
  | nil => simp
  | cons c rest =>
    have positive := c.utf8Size_pos
    rw [byteLength_cons]
    constructor
    · intro zero
      omega
    · intro empty
      contradiction

/-- A text with a character has a byte. -/
theorem byteLength_pos {text : Text} (nonempty : text ≠ []) : 0 < text.byteLength :=
  Nat.pos_of_ne_zero fun zero => nonempty (byteLength_eq_zero.mp zero)

/-- Of two cuts of a text, the one with no fewer bytes before it lies behind the other. -/
theorem exists_between {front back front' back' : Text} (same : front ++ back = front' ++ back')
    (before : front.byteLength ≤ front'.byteLength) :
    ∃ between, front' = front ++ between ∧ back = between ++ back' := by
  rcases List.append_eq_append_iff.mp same with found | ⟨between, frontEq, backEq⟩
  · exact found
  · have bytes := congrArg byteLength frontEq
    rw [byteLength_append] at bytes
    obtain rfl : between = [] := byteLength_eq_zero.mp (by omega)
    exact ⟨[], by simp [frontEq], by simp [backEq]⟩

/-- A boundary has one position: cuts of a text with as many bytes before them are the same. -/
theorem eq_of_byteLength_eq {front back front' back' : Text}
    (same : front ++ back = front' ++ back') (bytes : front.byteLength = front'.byteLength) :
    front = front' ∧ back = back' := by
  obtain ⟨between, frontEq, backEq⟩ := exists_between same (Nat.le_of_eq bytes)
  have length := congrArg byteLength frontEq
  rw [byteLength_append] at length
  obtain rfl : between = [] := byteLength_eq_zero.mp (by omega)
  exact ⟨by simp [frontEq], by simp [backEq]⟩

end QuotedText.Text
