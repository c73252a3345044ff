import Mathlib.Tactic.Ring
import QuotedText.Proofs.Text.Trim
import QuotedText.Yaml.Token

/-!
# Scalars written out

A scalar may be written as escapes between double quotes, each of them the code point of a
character in eight hexadecimal digits, or as a plain word. Between double quotes the escapes read
as their characters up to the closing quote (`Yaml.quotedBody_escapes`), and a plain word reads as
itself up to what ends it (`Yaml.plain?_word`).
-/

namespace QuotedText.Yaml

/-! ## Visible characters -/

/-- A visible character of ASCII. -/
def IsInk (c : Char) : Prop :=
  0x20 < c.toNat ∧ c.toNat < 0x7F

instance (c : Char) : Decidable (IsInk c) :=
  inferInstanceAs (Decidable (_ ∧ _))

/-- A visible character is no gap. -/
theorem IsInk.isGap_eq_false {c : Char} (ink : IsInk c) : isGap c = false := by
  have other {d : Char} (outside : ¬IsInk d) : (c == d) = false := by
    rw [beq_eq_false_iff_ne]
    rintro rfl
    exact outside ink
  simp only [isGap, isSpace, isBreak, other (show ¬IsInk ' ' by decide),
    other (show ¬IsInk '\t' by decide), other (show ¬IsInk '\n' by decide),
    other (show ¬IsInk '\r' by decide), other (show ¬IsInk '\u0085' by decide),
    other (show ¬IsInk '\u2028' by decide), other (show ¬IsInk '\u2029' by decide), Bool.or_self]

/-- A character that is no gap ends no line. -/
theorem isBreak_eq_false_of_isGap {c : Char} (noGap : isGap c = false) : isBreak c = false :=
  (Bool.or_eq_false_iff.mp noGap).2

/-- A document may hold a visible character. -/
theorem IsInk.isPermitted {c : Char} (ink : IsInk c) : isPermitted c = true := by
  obtain ⟨low, high⟩ := ink
  rw [Yaml.isPermitted, inRanges, List.any_eq_true]
  refine ⟨(0x20, 0x7E), by simp, ?_⟩
  simp only [Bool.and_eq_true, decide_eq_true_eq]
  omega

/-! ## Hexadecimal digits -/

/-- The hexadecimal digit of a value below sixteen, as a capital or not. -/
def hexDigit (capital : Bool) (value : Nat) : Char :=
  if value < 10 then Char.ofNat ('0'.toNat + value)
  else if capital then Char.ofNat ('A'.toNat + (value - 10))
  else Char.ofNat ('a'.toNat + (value - 10))

/-- The last `count` hexadecimal digits of a number; `capital` says which places have capitals. -/
def hexDigits (capital : Nat → Bool) (number : Nat) : Nat → Text
  | 0 => []
  | place + 1 =>
    hexDigit (capital place) (number / 16 ^ place % 16) :: hexDigits capital number place

/-- A digit reads as its value and is visible. -/
theorem hexDigit?_hexDigit {capital : Bool} {value : Nat} (digit : value < 16) :
    hexDigit? (hexDigit capital value) = some value ∧ IsInk (hexDigit capital value) := by
  have every : ∀ (capital : Bool) (digit : Fin 16),
      hexDigit? (hexDigit capital digit) = some digit.val ∧ IsInk (hexDigit capital digit) := by
    decide
  exact every capital ⟨value, digit⟩

/-- There are as many digits as places. -/
theorem length_hexDigits (capital : Nat → Bool) (number places : Nat) :
    (hexDigits capital number places).length = places := by
  induction places with
  | zero => rfl
  | succ places ih => rw [hexDigits, List.length_cons, ih]

/-- Digits are visible. -/
theorem isInk_hexDigits {capital : Nat → Bool} {number places : Nat} :
    ∀ c ∈ hexDigits capital number places, IsInk c := by
  induction places with
  | zero => exact List.forall_mem_nil _
  | succ places ih =>
    exact List.forall_mem_cons.mpr ⟨(hexDigit?_hexDigit (Nat.mod_lt _ (by decide))).2, ih⟩

/-- Digits read as the number they end. -/
theorem hexNumber?_hexDigits (capital : Nat → Bool) (number value places : Nat) :
    hexNumber? value (hexDigits capital number places) =
      some (value * 16 ^ places + number % 16 ^ places) := by
  induction places generalizing value with
  | zero => simp [hexDigits, hexNumber?, Nat.mod_one]
  | succ places ih =>
    have digit : number / 16 ^ places % 16 < 16 := Nat.mod_lt _ (by decide)
    have split : number % 16 ^ (places + 1) =
        number % 16 ^ places + 16 ^ places * (number / 16 ^ places % 16) := Nat.mod_pow_succ
    rw [hexDigits, hexNumber?, (hexDigit?_hexDigit digit).1]
    dsimp only
    rw [ih, split, Nat.pow_succ]
    congr 1
    ring

/-! ## Escapes -/

/-- A character written as its code point in eight hexadecimal digits. -/
structure CodeEscape where
  /-- The character. -/
  char : Char
  /-- The places whose digits are capitals. -/
  capital : Nat → Bool

namespace CodeEscape

/-- An escape as it is written. -/
def written (escape : CodeEscape) : Text :=
  '\\' :: 'U' :: hexDigits escape.capital escape.char.toNat 8

end CodeEscape

/-- Escapes between double quotes. -/
def quoted (escapes : List CodeEscape) : Text :=
  '"' :: (escapes.flatMap CodeEscape.written ++ ['"'])

/-- An escape is visible. -/
theorem isInk_written (escape : CodeEscape) : ∀ c ∈ escape.written, IsInk c :=
  List.forall_mem_cons.mpr ⟨by decide, List.forall_mem_cons.mpr ⟨by decide, isInk_hexDigits⟩⟩

/-- Escapes between quotes are visible. -/
theorem isInk_quoted (escapes : List CodeEscape) : ∀ c ∈ quoted escapes, IsInk c := by
  refine List.forall_mem_cons.mpr ⟨by decide, List.forall_mem_append.mpr ⟨fun c member => ?_, ?_⟩⟩
  · obtain ⟨escape, -, inEscape⟩ := List.mem_flatMap.mp member
    exact isInk_written escape c inEscape
  · exact List.forall_mem_singleton.mpr (by decide)

/-- Eight digits read as the character whose code point they write. -/
theorem codePoint?_hexDigits (capital : Nat → Bool) (c : Char) (rest : Text) :
    codePoint? 8 (hexDigits capital c.toNat 8 ++ rest) = some ([c], rest) := by
  have length := length_hexDigits capital c.toNat 8
  have low : c.toNat < 16 ^ 8 := by
    have valid := c.valid
    have range : c.toNat < 0x110000 := by
      rcases valid with low | high
      · exact Nat.lt_trans low (by decide)
      · exact high.2
    omega
  have number : hexNumber? 0 (hexDigits capital c.toNat 8) = some c.toNat := by
    rw [hexNumber?_hexDigits, Nat.zero_mul, Nat.zero_add, Nat.mod_eq_of_lt low]
  have valid : c.toNat.isValidChar := c.valid
  rw [codePoint?, List.take_left' length, List.drop_left' length]
  rw [if_pos length, number]
  dsimp only
  rw [if_pos valid, Char.ofNat_toNat]

/-- What is read behind an escape follows what the escape reads as. -/
theorem quotedBody_escape {text read after : Text} (found : escape? text = some (read, after)) :
    quotedBody .double ('\\' :: text) =
      (quotedBody .double after).map fun (body, tail) => (read ++ body, tail) := by
  rw [quotedBody, if_neg (by decide), if_neg (by decide), if_pos (by rfl)]
  split
  · rename_i read' after' found'
    obtain ⟨rfl, rfl⟩ : read = read' ∧ after = after' := by simpa [found] using found'
    rfl
  · rename_i none
    rw [none] at found
    contradiction

/-- A double quote that is not escaped ends its scalar. -/
theorem quotedBody_close (rest : Text) : quotedBody .double ('"' :: rest) = some ([], rest) := by
  rw [quotedBody, if_neg (by decide), if_pos (by rfl)]
  rfl

/-- Escapes up to the closing quote read as their characters. -/
theorem quotedBody_escapes (escapes : List CodeEscape) (rest : Text) :
    quotedBody .double (escapes.flatMap CodeEscape.written ++ '"' :: rest) =
      some (escapes.map (·.char), rest) := by
  induction escapes with
  | nil => exact quotedBody_close rest
  | cons escape escapes ih =>
    have found : escape? ('U' :: (hexDigits escape.capital escape.char.toNat 8 ++
        (escapes.flatMap CodeEscape.written ++ '"' :: rest))) =
          some ([escape.char], escapes.flatMap CodeEscape.written ++ '"' :: rest) :=
      codePoint?_hexDigits escape.capital escape.char _
    rw [List.flatMap_cons, List.append_assoc, CodeEscape.written, List.cons_append,
      List.cons_append, quotedBody_escape found, ih]
    rfl

/-! ## Plain words -/

/-- A word that is written without quotes begins no other construct and goes on to the colon
behind it or to the end of its line. -/
structure IsPlainWord (word : Text) : Prop where
  /-- There is something to write. -/
  nonempty : word ≠ []
  /-- It begins neither another construct nor a document with a byte order mark. -/
  begins : ∀ c ∈ word.head?, isIndicator c = false ∧ c ≠ '\uFEFF'
  /-- It holds no gap and nothing that ends a word. -/
  within : ∀ c ∈ word, isGap c = false ∧ c ≠ ':' ∧ c ≠ '#'

/-- Whether a word is plain can be read off its characters. -/
theorem isPlainWord_iff {word : Text} :
    IsPlainWord word ↔ word ≠ [] ∧ (word.head?.all fun c => !isIndicator c && c != '\uFEFF') ∧
      word.all fun c => !isGap c && (c != ':' && c != '#') := by
  simp only [Option.all_eq_true, List.all_eq_true, Bool.and_eq_true, Bool.not_eq_true',
    bne_iff_ne]
  exact ⟨fun plain => ⟨plain.nonempty, plain.begins, plain.within⟩,
    fun ⟨nonempty, begins, within⟩ => ⟨nonempty, begins, within⟩⟩

instance (word : Text) : Decidable (IsPlainWord word) :=
  decidable_of_iff' _ isPlainWord_iff

/-- What ends a plain word in a block: a colon before a gap, a line break or the end. -/
def EndsWord : Text → Prop
  | [] => True
  | c :: rest => isBreak c = true ∨ c = ':' ∧ startsGap rest = true

/-- The run of a plain scalar is the characters up to what ends it. -/
theorem plainRun_word {run after : Text} {afterSpace : Bool}
    (within : ∀ c ∈ run, isGap c = false ∧ c ≠ ':' ∧ c ≠ '#') (ends : EndsWord after) :
    plainRun false afterSpace (run ++ after) = some (run, after) := by
  induction run generalizing afterSpace with
  | nil =>
    cases after with
    | nil => rfl
    | cons c rest =>
      rcases ends with line | ⟨rfl, gap⟩
      · simp [plainRun, line]
      · simp [plainRun, gap]
  | cons c run ih =>
    obtain ⟨⟨noGap, noColon, noHash⟩, later⟩ := List.forall_mem_cons.mp within
    have noBreak := isBreak_eq_false_of_isGap noGap
    rw [List.cons_append, plainRun, ih later]
    simp [noBreak, noColon, noHash]

/-- A plain word reads as itself. -/
theorem plain?_word {c : Char} {tail after : Text} (plain : IsPlainWord (c :: tail))
    (ends : EndsWord after) : plain? false c (tail ++ after) = some (c :: tail, after) := by
  obtain ⟨-, later⟩ := List.forall_mem_cons.mp plain.within
  have stays : Text.dropEndWhile isSpace (c :: tail) = c :: tail := by
    rw [Text.dropEndWhile_eq_rdropWhile, List.rdropWhile_eq_self_iff]
    intro nonempty isSpaceLast
    have noSpace := (Bool.or_eq_false_iff.mp (plain.within _ (List.getLast_mem nonempty)).1).1
    rw [isSpaceLast] at noSpace
    contradiction
  rw [plain?, plainRun_word later ends, Option.map_some]
  dsimp only
  rw [stays]

end QuotedText.Yaml
