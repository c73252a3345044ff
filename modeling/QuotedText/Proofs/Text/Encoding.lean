import Mathlib.Data.List.GetD
import QuotedText.Proofs.Text.Boundary
import QuotedText.Text.ByteBudget

/-!
# Where characters begin

The encoding of a character is a first byte and continuation bytes
(`exists_utf8EncodeChar`), so in the encoding of a text the bytes that continue no character stand
at its boundaries (`Text.isContinuation_encode_eq_false_iff`). Each of them begins a character
(`Text.isBoundary_iff_beginsChar`), so there are as many of them as there are characters
(`Text.countP_encode`).
-/

namespace QuotedText

/-- A continuation byte is one from 128 up to 191. -/
theorem isContinuation_iff (byte : UInt8) :
    isContinuation byte = true ↔ 128 ≤ byte.toNat ∧ byte.toNat < 192 := by
  have every : ∀ value : Fin 256, isContinuation (UInt8.ofNat value.val) = true ↔
      128 ≤ value.val ∧ value.val < 192 := by decide +kernel
  have here := every ⟨byte.toNat, byte.toNat_lt⟩
  rwa [UInt8.ofNat_toNat] at here

/-- A continuation byte carries six bits of a character. -/
theorem isContinuation_sixBits (value : Nat) :
    isContinuation (UInt8.ofNat (value % 64 + 128)) = true := by
  rw [isContinuation_iff, UInt8.toNat_ofNat']
  omega

/-- A byte below 128 or from 192 on begins a character. -/
theorem not_isContinuation {value : Nat} (byte : value < 256)
    (outside : value < 128 ∨ 192 ≤ value) : isContinuation (UInt8.ofNat value) = false := by
  rw [Bool.eq_false_iff, Ne, isContinuation_iff, UInt8.toNat_ofNat']
  omega

/-- A character is encoded as a first byte and continuation bytes. -/
theorem exists_utf8EncodeChar (c : Char) :
    ∃ first others, String.utf8EncodeChar c = first :: others ∧ isContinuation first = false ∧
      ∀ byte ∈ others, isContinuation byte = true := by
  have sixBits {value : Nat} {others : List UInt8}
      (continues : ∀ byte ∈ others, isContinuation byte = true) :
      ∀ byte ∈ UInt8.ofNat (value % 64 + 128) :: others, isContinuation byte = true :=
    List.forall_mem_cons.mpr ⟨isContinuation_sixBits value, continues⟩
  have nothing : ∀ byte ∈ [], isContinuation byte = true := List.forall_mem_nil _
  rw [String.utf8EncodeChar]
  by_cases one : c.val.toNat ≤ 127
  · exact ⟨_, _, if_pos one, not_isContinuation (by omega) (by omega), nothing⟩
  rw [if_neg one]
  by_cases two : c.val.toNat ≤ 2047
  · exact ⟨_, _, if_pos two, not_isContinuation (by omega) (by omega), sixBits nothing⟩
  rw [if_neg two]
  by_cases three : c.val.toNat ≤ 65535
  · exact ⟨_, _, if_pos three, not_isContinuation (by omega) (by omega),
      sixBits (sixBits nothing)⟩
  · exact ⟨_, _, if_neg three, not_isContinuation (by omega) (by omega),
      sixBits (sixBits (sixBits nothing))⟩

/-- Of the bytes of a character, only the first continues none. -/
theorem isContinuation_utf8EncodeChar_eq_false_iff {c : Char} {position : Nat}
    (inside : position < c.utf8Size) :
    isContinuation ((String.utf8EncodeChar c).getD position 0) = false ↔ position = 0 := by
  obtain ⟨first, others, bytes, begins, continues⟩ := exists_utf8EncodeChar c
  have size : c.utf8Size = others.length + 1 := by
    rw [← String.length_utf8EncodeChar, bytes, List.length_cons]
  rw [bytes]
  cases position with
  | zero => exact iff_of_true begins rfl
  | succ before =>
    have byte : others.getD before 0 ∈ others := by
      rw [List.getD_eq_getElem _ _ (show before < others.length by omega)]
      exact List.getElem_mem _
    have continued : isContinuation (others.getD before 0) ≠ false := by
      rw [continues _ byte]
      decide
    exact iff_of_false continued (Nat.succ_ne_zero before)

/-- One byte of a character continues none. -/
theorem countP_utf8EncodeChar (c : Char) :
    (String.utf8EncodeChar c).countP (fun byte => !isContinuation byte) = 1 := by
  obtain ⟨first, others, bytes, begins, continues⟩ := exists_utf8EncodeChar c
  have noOther : others.countP (fun byte => !isContinuation byte) = 0 := by
    rw [List.countP_eq_zero]
    intro byte member
    simp [continues byte member]
  rw [bytes, List.countP_cons, noOther, begins]
  rfl

namespace Text

/-- The encoding of a text is that of its first character and that of the rest. -/
theorem encode_cons (c : Char) (rest : Text) :
    encode (c :: rest) = String.utf8EncodeChar c ++ encode rest :=
  List.flatMap_cons

/-- Whole characters of a text stand before a byte position. -/
def IsBoundary (text : Text) (position : Nat) : Prop :=
  ∃ front back, text = front ++ back ∧ front.byteLength = position

/-- A position is a boundary when it is the start of the text or a boundary behind the first
character. -/
theorem isBoundary_cons_iff {c : Char} {rest : Text} {position : Nat} :
    IsBoundary (c :: rest) position ↔
      position = 0 ∨ c.utf8Size ≤ position ∧ rest.IsBoundary (position - c.utf8Size) := by
  constructor
  · rintro ⟨front, back, split, rfl⟩
    cases front with
    | nil => exact .inl rfl
    | cons d front =>
      obtain ⟨rfl, rfl⟩ := List.cons.inj split
      rw [byteLength_cons]
      exact .inr ⟨by omega, front, back, rfl, by omega⟩
  · rintro (rfl | ⟨behind, front, back, rfl, bytes⟩)
    · exact ⟨[], c :: rest, rfl, rfl⟩
    · exact ⟨c :: front, back, rfl, by rw [byteLength_cons]; omega⟩

/-- The bytes that continue no character are those at a boundary. -/
theorem isContinuation_encode_eq_false_iff {text : Text} {position : Nat}
    (inside : position < text.byteLength) :
    isContinuation (text.encode.getD position 0) = false ↔ text.IsBoundary position := by
  induction text generalizing position with
  | nil => exact absurd inside (Nat.not_lt_zero position)
  | cons c rest ih =>
    have size := String.length_utf8EncodeChar c
    rw [encode_cons, isBoundary_cons_iff]
    by_cases within : position < c.utf8Size
    · rw [List.getD_append _ _ _ _ (by omega), isContinuation_utf8EncodeChar_eq_false_iff within]
      have notBehind : ¬(c.utf8Size ≤ position ∧ IsBoundary rest (position - c.utf8Size)) :=
        fun behind => Nat.not_le_of_lt within behind.1
      exact (or_iff_left notBehind).symm
    · rw [byteLength_cons] at inside
      have positive := c.utf8Size_pos
      have behind : c.utf8Size ≤ position := Nat.le_of_not_lt within
      have notFirst : position ≠ 0 := by omega
      rw [List.getD_append_right _ _ _ _ (by omega), size, ih (by omega), or_iff_right notFirst,
        and_iff_right behind]

/-- A character of a text begins at a byte position. -/
def BeginsChar (text : Text) (position : Nat) : Prop :=
  ∃ (front : Text) (c : Char) (back : Text), text = front ++ c :: back ∧
    front.byteLength = position

/-- Before the end of a text the boundaries are where its characters begin. -/
theorem isBoundary_iff_beginsChar {text : Text} {position : Nat}
    (inside : position < text.byteLength) :
    text.IsBoundary position ↔ text.BeginsChar position := by
  constructor
  · rintro ⟨front, back, rfl, rfl⟩
    cases back with
    | nil =>
      rw [List.append_nil] at inside
      exact absurd inside (Nat.lt_irrefl _)
    | cons c back => exact ⟨front, c, back, rfl, rfl⟩
  · rintro ⟨front, c, back, split, bytes⟩
    exact ⟨front, c :: back, split, bytes⟩

/-- As many bytes of a text continue no character as the text has characters. -/
theorem countP_encode (text : Text) :
    text.encode.countP (fun byte => !isContinuation byte) = text.length := by
  induction text with
  | nil => rfl
  | cons c rest ih =>
    rw [encode_cons, List.countP_append, countP_utf8EncodeChar, ih, List.length_cons, Nat.add_comm]

end Text

end QuotedText
