import QuotedText.Proofs.Text.Encoding

/-!
# Cutting a text to a byte budget

The walk back from the budget ends at the last boundary that is not behind it
(`Text.walkBack_isBoundary`, `Text.le_walkBack`), so a cut keeps the longest prefix of the text
that fits into the budget (`Text.truncateFrom_isLongestFit`). On its way the cut reads bytes of the
text only and divides the text at boundaries only: `Text.truncateFrom?`, which fails where that
would go wrong, never fails. As a character has at most four bytes, the walk is short
(`Text.continuation_laws`).
-/

namespace QuotedText.Text

/-! ## The walk back -/

/-- Every text begins at a boundary. -/
theorem isBoundary_zero (text : Text) : text.IsBoundary 0 :=
  ⟨[], text, rfl, rfl⟩

/-- The walk back ends at a boundary. -/
theorem walkBack_isBoundary {text : Text} {cut : Nat} (inside : cut < text.byteLength) :
    text.IsBoundary (walkBack text.encode cut) := by
  induction cut with
  | zero => exact isBoundary_zero text
  | succ before ih =>
    rw [walkBack]
    split
    · exact ih (by omega)
    · rename_i begins
      exact (isContinuation_encode_eq_false_iff inside).mp (Bool.eq_false_iff.mpr begins)

/-- The walk back passes no boundary. -/
theorem le_walkBack {text : Text} {cut position : Nat} (inside : cut < text.byteLength)
    (boundary : text.IsBoundary position) (before : position ≤ cut) :
    position ≤ walkBack text.encode cut := by
  induction cut with
  | zero => exact before
  | succ cut ih =>
    rw [walkBack]
    split
    · rename_i continued
      have passed : position ≠ cut + 1 := by
        rintro rfl
        rw [(isContinuation_encode_eq_false_iff inside).mpr boundary] at continued
        contradiction
      exact ih (by omega) (by omega)
    · exact before

/-- The front of a text is what stands before its own number of bytes. -/
theorem takeBytes?_byteLength (front back : Text) :
    takeBytes? front.byteLength (front ++ back) = some front := by
  induction front with
  | nil => rw [byteLength_nil, takeBytes?]
  | cons c front ih =>
    have positive := c.utf8Size_pos
    obtain ⟨count, size⟩ : ∃ count, byteLength (c :: front) = count + 1 :=
      ⟨byteLength (c :: front) - 1, by rw [byteLength_cons]; omega⟩
    have others : count + 1 - c.utf8Size = byteLength front := by
      rw [byteLength_cons] at size
      omega
    have fits : c.utf8Size ≤ count + 1 := by
      rw [byteLength_cons] at size
      omega
    rw [size, List.cons_append, takeBytes?, if_pos fits, others, ih, Option.map_some]

/-! ## The longest prefix that fits -/

/-- A prefix of a text fits into a number of bytes and holds every other that does. -/
structure IsLongestFit (text : Text) (budget : Nat) (front : Text) : Prop where
  /-- It is a prefix. -/
  isPrefix : front <+: text
  /-- It fits. -/
  fits : front.byteLength ≤ budget
  /-- Every other prefix that fits is a prefix of it. -/
  longest : ∀ other : Text, other <+: text → other.byteLength ≤ budget → other <+: front

/-- A text that does not fit is divided at the boundary at which the walk back ends. -/
theorem exists_truncate {text : Text} {budget : Nat} (long : budget < text.byteLength) :
    ∃ back, text = text.truncate budget ++ back ∧
      (text.truncate budget).byteLength = walkBack text.encode budget ∧
      takeBytes? (walkBack text.encode budget) text = some (text.truncate budget) := by
  obtain ⟨front, back, split, bytes⟩ := walkBack_isBoundary long
  have taken : takeBytes? (walkBack text.encode budget) text = some front := by
    rw [← bytes, split]
    exact takeBytes?_byteLength front back
  have kept : text.truncate budget = front := by
    rw [truncate, if_neg (Nat.not_le_of_lt long), taken, Option.getD_some]
  rw [kept]
  exact ⟨back, split, bytes, taken⟩

/-- A cut keeps the longest prefix that fits into the budget. -/
theorem truncate_isLongestFit (text : Text) (budget : Nat) :
    text.IsLongestFit budget (text.truncate budget) := by
  by_cases long : budget < text.byteLength
  · obtain ⟨back, split, bytes, -⟩ := exists_truncate long
    have fits : (text.truncate budget).byteLength ≤ budget := by
      rw [bytes]
      exact walkBack_le _ _
    refine ⟨⟨back, split.symm⟩, fits, ?_⟩
    rintro other ⟨rest, same⟩ otherFits
    have boundary : text.IsBoundary (byteLength other) := ⟨other, rest, same.symm, rfl⟩
    have before : byteLength other ≤ (text.truncate budget).byteLength := by
      rw [bytes]
      exact le_walkBack long boundary otherFits
    obtain ⟨between, keptEq, -⟩ := exists_between (same.trans split) before
    exact ⟨between, keptEq.symm⟩
  · have whole : text.truncate budget = text := truncate_of_le (Nat.le_of_not_lt long)
    rw [whole]
    exact ⟨List.prefix_refl text, Nat.le_of_not_lt long, fun _ isPrefix _ => isPrefix⟩

/-! ## Reading within bounds -/

/-- The walk back, which fails where it would read a byte that is not there. -/
def walkBack? (bytes : List UInt8) : Nat → Option Nat
  | 0 => some 0
  | cut + 1 =>
    bytes[cut + 1]?.bind fun byte =>
      if isContinuation byte then walkBack? bytes cut else some (cut + 1)

/-- The text behind a byte position, which fails where that is no boundary. -/
def dropBytes? (position : Nat) (text : Text) : Option Text :=
  (takeBytes? position text).map fun front => text.drop front.length

/-- The cut to a budget, which fails where it would read a byte that is not there or divide the
text at no boundary. -/
def truncate? (text : Text) (budget : Nat) : Option Text :=
  if text.byteLength ≤ budget then some text
  else (walkBack? text.encode budget).bind (takeBytes? · text)

/-- The cut behind some characters, which fails where it would read a byte that is not there or
divide the text at no boundary. The first character that counts is found by its byte position. -/
def truncateFrom? (text : Text) (skipped budget : Nat) : Option Text :=
  if skipped < text.length then
    (dropBytes? (byteLength (text.take skipped)) text).bind (truncate? · budget)
  else some []

/-- The walk back from a byte of a text reads bytes of the text only. -/
theorem walkBack?_eq_some {bytes : List UInt8} {cut : Nat} (inside : cut < bytes.length) :
    walkBack? bytes cut = some (walkBack bytes cut) := by
  induction cut with
  | zero => rfl
  | succ cut ih =>
    have byte : bytes[cut + 1]? = some (bytes.getD (cut + 1) 0) := by
      rw [List.getD_eq_getElem _ _ inside]
      exact List.getElem?_eq_getElem inside
    rw [walkBack?, walkBack, byte, ih (by omega), Option.bind_some]
    split <;> rfl

/-- A cut to a budget never fails. -/
theorem truncate?_eq_some (text : Text) (budget : Nat) :
    text.truncate? budget = some (text.truncate budget) := by
  rw [truncate?]
  by_cases long : budget < text.byteLength
  · have inside : budget < text.encode.length := by rwa [length_encode]
    obtain ⟨back, -, -, taken⟩ := exists_truncate long
    rw [if_neg (Nat.not_le_of_lt long), walkBack?_eq_some inside, Option.bind_some, taken]
  · have fits : text.byteLength ≤ budget := Nat.le_of_not_lt long
    rw [if_pos fits, truncate_of_le fits]

/-- A cut behind some characters never fails. -/
theorem truncateFrom?_eq_some (text : Text) (skipped budget : Nat) :
    text.truncateFrom? skipped budget = some (text.truncateFrom skipped budget) := by
  rw [truncateFrom?, truncateFrom]
  by_cases within : skipped < text.length
  · have split : text.take skipped ++ text.drop skipped = text := List.take_append_drop skipped text
    have taken := takeBytes?_byteLength (text.take skipped) (text.drop skipped)
    rw [split] at taken
    have length : (text.take skipped).length = skipped := List.length_take_of_le (by omega)
    rw [if_pos within, dropBytes?, taken, Option.map_some, Option.bind_some, length]
    exact truncate?_eq_some (text.drop skipped) budget
  · have nothing : text.drop skipped = [] := List.drop_eq_nil_of_le (Nat.le_of_not_lt within)
    rw [if_neg within, nothing, truncate_of_le (Nat.zero_le budget)]

/-- A cut behind some characters keeps the longest prefix of the rest of the text that fits into
the budget, and the cut of the whole text is the one behind none. It reads bytes of the text only
and divides the text at boundaries only. -/
theorem truncateFrom_isLongestFit (text : Text) (skipped budget : Nat) :
    IsLongestFit (text.drop skipped) budget (text.truncateFrom skipped budget) ∧
      text.truncate budget = text.truncateFrom 0 budget ∧
      text.truncateFrom? skipped budget = some (text.truncateFrom skipped budget) ∧
      text.truncate? budget = some (text.truncate budget) :=
  ⟨truncate_isLongestFit (text.drop skipped) budget, rfl, truncateFrom?_eq_some text skipped budget,
    truncate?_eq_some text budget⟩

/-- A cut through a character of four bytes goes back to its beginning. -/
example : truncate "ab😀".toList 5 = ['a', 'b'] := by decide +kernel

/-! ## The length of the walk -/

/-- The number of steps that the walk back takes. -/
def walkLength (bytes : List UInt8) : Nat → Nat
  | 0 => 0
  | cut + 1 => if isContinuation (bytes.getD (cut + 1) 0) then walkLength bytes cut + 1 else 0

/-- Each step of the walk goes back by one byte. -/
theorem walkBack_add_walkLength (bytes : List UInt8) (cut : Nat) :
    walkBack bytes cut + walkLength bytes cut = cut := by
  induction cut with
  | zero => rfl
  | succ cut ih =>
    rw [walkBack, walkLength]
    split
    · rw [← Nat.add_assoc, ih]
    · rfl

/-- Every byte of a text belongs to a character, which begins at most three bytes before it. -/
theorem exists_beginsChar {text : Text} {position : Nat} (inside : position < text.byteLength) :
    ∃ start, text.BeginsChar start ∧ start ≤ position ∧ position ≤ start + 3 := by
  induction text generalizing position with
  | nil => exact absurd inside (Nat.not_lt_zero position)
  | cons c rest ih =>
    by_cases within : position < c.utf8Size
    · have atMostFour := c.utf8Size_le_four
      exact ⟨0, ⟨[], c, rest, rfl, rfl⟩, Nat.zero_le position, by omega⟩
    · have inRest : position - c.utf8Size < byteLength rest := by
        rw [byteLength_cons] at inside
        omega
      obtain ⟨start, ⟨front, d, back, split, bytes⟩, before, near⟩ := ih inRest
      have begins : BeginsChar (c :: rest) (c.utf8Size + start) :=
        ⟨c :: front, d, back, by rw [split, List.cons_append], by rw [byteLength_cons, bytes]⟩
      exact ⟨c.utf8Size + start, begins, by omega, by omega⟩

/-- The walk back from a byte of a text takes at most three steps. -/
theorem walkLength_le_three {text : Text} {cut : Nat} (inside : cut < text.byteLength) :
    walkLength text.encode cut ≤ 3 := by
  obtain ⟨start, ⟨front, c, back, split, bytes⟩, before, near⟩ := exists_beginsChar inside
  have passed : start ≤ walkBack text.encode cut :=
    le_walkBack inside ⟨front, c :: back, split, bytes⟩ before
  have steps := walkBack_add_walkLength text.encode cut
  omega

/-- The byte at a position of a text continues no character exactly when a character begins there,
so there are as many such bytes as characters. The walk back of a cut within the text takes at most
three steps: it ends at a boundary, which is where the text is cut, and passes none on its way. -/
theorem continuation_laws (text : Text) :
    (∀ position byte, text.encode[position]? = some byte →
      (isContinuation byte = false ↔ text.BeginsChar position)) ∧
    text.encode.countP (fun byte => !isContinuation byte) = text.length ∧
    ∀ budget, budget < text.byteLength →
      (text.truncate budget).byteLength + walkLength text.encode budget = budget ∧
      walkLength text.encode budget ≤ 3 ∧
      text.IsBoundary (text.truncate budget).byteLength ∧
      ∀ position, text.IsBoundary position → position ≤ budget →
        position ≤ (text.truncate budget).byteLength := by
  refine ⟨?_, countP_encode text, ?_⟩
  · intro position byte found
    obtain ⟨within, here⟩ := List.getElem?_eq_some_iff.mp found
    have inside : position < text.byteLength := by rwa [length_encode] at within
    have same : text.encode.getD position 0 = byte := by
      rw [List.getD_eq_getElem _ _ within, here]
    rw [← same, isContinuation_encode_eq_false_iff inside, isBoundary_iff_beginsChar inside]
  · intro budget inside
    obtain ⟨-, -, ends, -⟩ := exists_truncate inside
    rw [ends]
    exact ⟨walkBack_add_walkLength text.encode budget, walkLength_le_three inside,
      walkBack_isBoundary inside, fun _ => le_walkBack inside⟩

/-- A walk from the last byte of a character of four bytes takes three steps. -/
theorem continuation_laws_four_bytes :
    encode "¢😀".toList = [0xC2, 0xA2, 0xF0, 0x9F, 0x98, 0x80] ∧
      isContinuation 0xF0 = false ∧ BeginsChar "¢😀".toList 2 ∧
      5 < byteLength "¢😀".toList ∧ walkLength (encode "¢😀".toList) 5 = 3 ∧
      byteLength (truncate "¢😀".toList 5) + 3 = 5 := by
  have bytes : encode "¢😀".toList = [0xC2, 0xA2, 0xF0, 0x9F, 0x98, 0x80] := by decide +kernel
  have byte : (encode "¢😀".toList)[2]? = some 0xF0 := by
    rw [bytes]
    rfl
  have first : isContinuation 0xF0 = false := by decide
  have inside : 5 < byteLength "¢😀".toList := by decide +kernel
  have steps : walkLength (encode "¢😀".toList) 5 = 3 := by
    rw [bytes]
    decide
  obtain ⟨begins, -, walks⟩ := continuation_laws "¢😀".toList
  have walk := (walks 5 inside).1
  rw [steps] at walk
  exact ⟨bytes, first, (begins 2 0xF0 byte).mp first, inside, steps, walk⟩

end QuotedText.Text
