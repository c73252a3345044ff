import QuotedText.Text.Basic

/-!
# Byte budgets

A text is cut to a number of bytes without cutting through a character: the cut starts at the
budget and walks back over continuation bytes to the nearest byte that begins a character. The
encoding has as many bytes as the text's `byteLength` (`Text.length_encode`), and a text within
its budget stays whole (`Text.truncate_of_le`).
-/

namespace QuotedText

/-- A continuation byte has the form `10xxxxxx`; every other byte begins a character. -/
def isContinuation (byte : UInt8) : Bool :=
  byte &&& 0xC0 == 0x80

namespace Text

/-- The bytes of a text in UTF-8. -/
def encode (text : Text) : List UInt8 :=
  text.flatMap String.utf8EncodeChar

/-- A text has as many bytes as its encoding. -/
@[simp] theorem length_encode (text : Text) : text.encode.length = text.byteLength := by
  induction text with
  | nil => rfl
  | cons c rest ih =>
    rw [encode, List.flatMap_cons, List.length_append, String.length_utf8EncodeChar,
      byteLength_cons, ← ih, encode]

/-- The last position at or before `cut` whose byte continues no character. -/
def walkBack (bytes : List UInt8) : Nat → Nat
  | 0 => 0
  | cut + 1 =>
    if isContinuation (bytes.getD (cut + 1) 0) then walkBack bytes cut else cut + 1

/-- The characters that make up exactly the first `count` bytes of a text, if some do. -/
def takeBytes? : Nat → Text → Option Text
  | 0, _ => some []
  | _ + 1, [] => none
  | count + 1, c :: rest =>
    if c.utf8Size ≤ count + 1 then
      (takeBytes? (count + 1 - c.utf8Size) rest).map (c :: ·)
    else none
termination_by _ text => text.length

/-- Cuts a text to at most `budget` bytes at the beginning of a character. -/
def truncate (text : Text) (budget : Nat) : Text :=
  if text.byteLength ≤ budget then text
  else (takeBytes? (walkBack text.encode budget) text).getD []

/-- Leaves out `skipped` characters and cuts the rest to at most `budget` bytes. -/
def truncateFrom (text : Text) (skipped budget : Nat) : Text :=
  truncate (text.drop skipped) budget

/-- A text within its budget stays whole. -/
theorem truncate_of_le {text : Text} {budget : Nat} (fits : text.byteLength ≤ budget) :
    text.truncate budget = text :=
  if_pos fits

/-- The walk never moves forward. -/
theorem walkBack_le (bytes : List UInt8) (cut : Nat) : walkBack bytes cut ≤ cut := by
  induction cut with
  | zero => exact Nat.le_refl 0
  | succ cut ih =>
    rw [walkBack]
    split
    · exact Nat.le_succ_of_le ih
    · exact Nat.le_refl _

end Text

end QuotedText
