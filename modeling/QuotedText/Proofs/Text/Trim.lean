import Mathlib.Data.List.DropRight
import Mathlib.Data.List.TakeWhile
import QuotedText.Text.Blank

/-!
# Trimmed text

What is dropped at the end of a text stands behind the last character that stays
(`Text.mem_dropEndWhile`). Trimming takes the blanks at both ends of a text (`Text.exists_trim`) and
nothing else: a text that neither begins nor ends with a blank stays as it is (`Text.trim_eq_self`).
What has been trimmed is such a text, so trimming it again changes nothing (`Text.trim_trim`).
-/

namespace QuotedText.Text

/-- Characters are dropped at the end of a text as Mathlib does it. -/
theorem dropEndWhile_eq_rdropWhile (drop : Char → Bool) (text : Text) :
    dropEndWhile drop text = text.rdropWhile drop := rfl

/-- A character that is not dropped stays. -/
theorem mem_dropEndWhile {drop : Char → Bool} {text : Text} {c : Char} (member : c ∈ text)
    (stays : drop c = false) : c ∈ text.dropEndWhile drop := by
  have whole : text.rdropWhile drop ++ text.rtakeWhile drop = text :=
    List.rdropWhile_append_rtakeWhile
  rw [← whole] at member
  rcases List.mem_append.mp member with kept | dropped
  · exact kept
  · rw [List.mem_rtakeWhile_imp dropped] at stays
    contradiction

/-- A character that is not dropped keeps its place before what is left of the text behind it. -/
theorem dropEndWhile_cons {drop : Char → Bool} {c : Char} (stays : drop c = false)
    (rest : Text) : dropEndWhile drop (c :: rest) = c :: dropEndWhile drop rest := by
  rw [dropEndWhile, dropEndWhile, List.reverse_cons, List.dropWhile_append]
  split
  · rename_i none
    rw [List.isEmpty_iff.mp none, List.dropWhile_cons_of_neg (by simp [stays])]
    rfl
  · rw [List.reverse_append]
    rfl

/-- A text that is not blank has a character that is no blank. -/
theorem isBlankText_eq_false_iff {text : Text} :
    text.isBlankText = false ↔ ∃ c ∈ text, isBlank c = false := by
  simp [isBlankText]

/-- A text with a character that is no blank is not blank. -/
theorem isBlankText_eq_false {text : Text} {c : Char} (member : c ∈ text)
    (visible : isBlank c = false) : text.isBlankText = false :=
  isBlankText_eq_false_iff.mpr ⟨c, member, visible⟩

/-- A text is what is left of it, with blanks before and behind. -/
theorem exists_trim (text : Text) :
    ∃ front back, text = front ++ (trim text ++ back) ∧ (∀ c ∈ front, isBlank c = true) ∧
      ∀ c ∈ back, isBlank c = true := by
  refine ⟨text.takeWhile isBlank, (trimStart text).rtakeWhile isBlank, ?_, ?_, ?_⟩
  · rw [trim, dropEndWhile_eq_rdropWhile, List.rdropWhile_append_rtakeWhile, trimStart,
      List.takeWhile_append_dropWhile]
  · exact fun _ => List.mem_takeWhile_imp
  · exact fun c member => List.mem_rtakeWhile_imp member

/-- Without the blanks at its head, a text begins with no blank. -/
theorem visible_head_dropWhile (text : Text) :
    ∀ d ∈ (text.dropWhile isBlank).head?, isBlank d = false := by
  have stops := List.head?_dropWhile_not isBlank text
  intro d isHead
  rw [isHead] at stops
  exact stops

/-- A trimmed text begins with no blank. -/
theorem visible_head_trim (text : Text) : ∀ c ∈ (trim text).head?, isBlank c = false := by
  intro c isHead
  obtain ⟨rest, textEq⟩ := List.head?_eq_some_iff.mp isHead
  obtain ⟨more, whole⟩ : trim text <+: text.dropWhile isBlank := List.rdropWhile_prefix isBlank _
  have stops := List.head?_dropWhile_not isBlank text
  rw [← whole, textEq] at stops
  exact stops

/-- A trimmed text ends with no blank. -/
theorem visible_last_trim (text : Text) : ∀ c ∈ (trim text).getLast?, isBlank c = false := by
  intro c isLast
  obtain ⟨nonempty, rfl⟩ := List.mem_getLast?_eq_getLast isLast
  have stops : ¬isBlank ((trim text).getLast nonempty) = true :=
    List.rdropWhile_last_not isBlank (trimStart text) nonempty
  simpa using stops

/-- A text that ends with no blank only loses blanks at its head. -/
theorem trim_eq_trimStart {text : Text} (visible : ∀ c ∈ text.getLast?, isBlank c = false) :
    trim text = trimStart text := by
  rw [trim, dropEndWhile_eq_rdropWhile, List.rdropWhile_eq_self_iff]
  intro nonempty
  obtain ⟨front, whole⟩ : trimStart text <:+ text := List.dropWhile_suffix isBlank
  have sameLast : text.getLast? = (trimStart text).getLast? := by
    rw [← List.getLast?_append_of_ne_nil front nonempty, whole]
  have isLast : (trimStart text).getLast nonempty ∈ text.getLast? := by
    rw [sameLast]
    exact List.getLast?_eq_some_getLast nonempty
  simp [visible _ isLast]

/-- A text that neither begins nor ends with a blank is trimmed. -/
theorem trim_eq_self {text : Text} (begins : ∀ c ∈ text.head?, isBlank c = false)
    (ends : ∀ c ∈ text.getLast?, isBlank c = false) : trim text = text := by
  rw [trim_eq_trimStart ends, trimStart]
  cases text with
  | nil => rfl
  | cons c rest => exact List.dropWhile_cons_of_neg (by simp [begins c rfl])

/-- Trimming a second time changes nothing. -/
theorem trim_trim (text : Text) : trim (trim text) = trim text :=
  trim_eq_self (visible_head_trim text) (visible_last_trim text)

/-- A blank at the head of a text is lost. -/
theorem trim_cons_blank {c : Char} (blank : isBlank c = true) (rest : Text) :
    trim (c :: rest) = trim rest := by
  rw [trim, trimStart, List.dropWhile_cons_of_pos blank]
  rfl

end QuotedText.Text
