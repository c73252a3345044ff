import QuotedText.Text.LetterCase

/-!
# Characters before the letters

No letter has a code point below that of `A`, and no letter has a form there. So a character from
that range is the same letter as no other, whether case is significant or not
(`LetterCase.same_iff_eq`).
-/

namespace QuotedText

open CaseData

/-- The code points from 1 up to 64 hold the digits and most punctuation of ASCII. -/
def BeforeLetters (c : Char) : Prop :=
  0 < c.toNat ∧ c.toNat < 65

/-- Letters and their forms of one letter are not before the letters. -/
theorem le_of_mem_upperRuns :
    ∀ run ∈ upperRuns, 65 ≤ run.first ∧ 65 ≤ run.image := by
  decide +kernel

/-- Letters with a form of several letters are not before the letters, and no such form is a single
letter. -/
theorem le_of_mem_upperExpansions :
    ∀ expansion ∈ upperExpansions, 65 ≤ expansion.1 ∧ 1 < expansion.2.length := by
  decide +kernel

/-- What a run gives comes from a code point of the run and is not before the letters. -/
theorem le_of_form? {run : CaseRun} {codePoint form : Nat} (member : run ∈ upperRuns)
    (found : run.form? codePoint = some form) : 65 ≤ codePoint ∧ 65 ≤ form := by
  obtain ⟨letter, image⟩ := le_of_mem_upperRuns run member
  rw [CaseRun.form?] at found
  split at found
  · rename_i inside
    have formEq := Option.some.inj found
    omega
  · contradiction

/-- A character before the letters has itself as its upper form. -/
theorem upperForm_of_beforeLetters {c : Char} (before : BeforeLetters c) : upperForm c = [c] := by
  have noRun : upperRuns.findSome? (·.form? c.toNat) = none := by
    rw [List.findSome?_eq_none_iff]
    intro run member
    rw [Option.eq_none_iff_forall_ne_some]
    intro form found
    have letter := (le_of_form? member found).1
    exact absurd before.2 (Nat.not_lt_of_le letter)
  have noExpansion : upperExpansions.lookup c.toNat = none := by
    rw [List.lookup_eq_none_iff]
    intro expansion member
    have letter := (le_of_mem_upperExpansions expansion member).1
    have other : c.toNat ≠ expansion.1 := Nat.ne_of_lt (Nat.lt_of_lt_of_le before.2 letter)
    simpa using other
  rw [upperForm, form, noRun, noExpansion]

/-- A number is the code point of its character, unless it is none of any. -/
theorem toNat_charOfNat (codePoint : Nat) :
    (Char.ofNat codePoint).toNat = codePoint ∨ (Char.ofNat codePoint).toNat = 0 := by
  by_cases valid : codePoint.isValidChar
  · rw [Char.ofNat, dif_pos valid]
    exact .inl rfl
  · rw [Char.ofNat, dif_neg valid]
    exact .inr rfl

/-- A character before the letters is the upper form of no other. -/
theorem eq_of_upperForm {c d : Char} (before : BeforeLetters d) (same : upperForm c = [d]) :
    c = d := by
  rw [upperForm, form] at same
  split at same
  · rename_i codePoint found
    obtain ⟨run, member, image⟩ := List.exists_of_findSome?_eq_some found
    have letter := (le_of_form? member image).2
    have formEq : Char.ofNat codePoint = d := List.singleton_inj.mp same
    have code := toNat_charOfNat codePoint
    rw [formEq] at code
    obtain ⟨positive, low⟩ := before
    omega
  · split at same
    · rename_i codePoints found
      obtain ⟨front, back, split, -⟩ := List.lookup_eq_some_iff.mp found
      have member : (c.toNat, codePoints) ∈ upperExpansions := by
        rw [split]
        exact List.mem_append_right front List.mem_cons_self
      have several : 1 < codePoints.length := (le_of_mem_upperExpansions _ member).2
      have length := congrArg List.length same
      rw [List.length_map, List.length_singleton] at length
      omega
    · exact List.singleton_inj.mp same

namespace LetterCase

/-- A character before the letters is the same letter as itself only. -/
theorem same_iff_eq {letterCase : LetterCase} {c d : Char} (before : BeforeLetters d) :
    letterCase.same c d ↔ c = d := by
  cases letterCase with
  | sensitive => exact same_sensitive
  | insensitive =>
    rw [same_iff]
    constructor
    · intro equalKeys
      have form : upperForm c = [d] := equalKeys.trans (upperForm_of_beforeLetters before)
      exact eq_of_upperForm before form
    · rintro rfl
      rfl

end LetterCase

end QuotedText
