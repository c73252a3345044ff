import QuotedText.Text.Blank
import QuotedText.Text.CaseData

/-!
# Letter case

The upper form of a character is the text Unicode maps it to without regard to language; the lower
form likewise, but for the capital sigma, which takes its final form at the end of a word. Two
characters are the same letter under a `LetterCase` when they have one key: themselves when case
is significant, their upper form when it is not. Being one comparison of keys, it is an
equivalence (`LetterCase.same_refl`, `LetterCase.same_symm`, `LetterCase.same_trans`).
-/

namespace QuotedText

namespace CaseData

/-- The form that a run gives to a code point, if the code point stands in it. -/
def CaseRun.form? (run : CaseRun) (codePoint : Nat) : Option Nat :=
  if run.first ≤ codePoint ∧ codePoint ≤ run.last ∧ (codePoint - run.first) % run.step = 0 then
    some (run.image + (codePoint - run.first))
  else none

/-- The form of a character under a list of runs and a list of expansions; a character in neither
is its own form. -/
def form (runs : List CaseRun) (expansions : List (Nat × List Nat)) (c : Char) : Text :=
  match runs.findSome? (·.form? c.toNat) with
  | some codePoint => [Char.ofNat codePoint]
  | none =>
    match expansions.lookup c.toNat with
    | some codePoints => codePoints.map Char.ofNat
    | none => [c]

end CaseData

open CaseData

/-- The upper form of a character, which may have several letters. -/
def upperForm (c : Char) : Text :=
  form upperRuns upperExpansions c

/-- The lower form of a character away from the end of a word. -/
def lowerForm (c : Char) : Text :=
  form lowerRuns lowerExpansions c

/-- Whether a character is an upper, lower or title case letter. -/
def isCased (c : Char) : Bool :=
  inRanges casedRanges c.toNat

/-- Whether a character is passed over in the search for a neighbouring cased letter. -/
def isCaseIgnorable (c : Char) : Bool :=
  inRanges ignorableRanges c.toNat

namespace Text

/-- The upper form of every character of a text. -/
def upper (text : Text) : Text :=
  text.flatMap upperForm

/-- Whether the first character that is not ignorable is cased. -/
def meetsCased (text : Text) : Bool :=
  match text.dropWhile isCaseIgnorable with
  | [] => false
  | c :: _ => isCased c

/-- The lower form of a text that follows the text whose reversal is `before`. A capital sigma is
final when a cased letter comes before it and none comes after it. -/
def lowerAfter (before : Text) : Text → Text
  | [] => []
  | c :: rest =>
    let lowered :=
      if c == 'Σ' then
        if meetsCased before && !meetsCased rest then ['ς'] else ['σ']
      else lowerForm c
    lowered ++ lowerAfter (c :: before) rest

/-- The lower form of a text. -/
def lower (text : Text) : Text :=
  lowerAfter [] text

end Text

/-- Whether the case of letters is significant. -/
inductive LetterCase where
  | sensitive
  | insensitive
deriving DecidableEq, Repr

namespace LetterCase

/-- What is compared in place of a character. -/
def key : LetterCase → Char → Text
  | .sensitive, c => [c]
  | .insensitive, c => upperForm c

/-- Two characters are the same letter when they have one key. -/
def same (letterCase : LetterCase) (a b : Char) : Bool :=
  a == b || letterCase.key a == letterCase.key b

/-- Being the same letter is having one key. -/
theorem same_iff {letterCase : LetterCase} {a b : Char} :
    letterCase.same a b ↔ letterCase.key a = letterCase.key b := by
  simp only [same, Bool.or_eq_true, beq_iff_eq]
  constructor
  · rintro (rfl | equalKeys)
    · rfl
    · exact equalKeys
  · exact Or.inr

/-- A character is the same letter as itself. -/
@[simp] theorem same_refl (letterCase : LetterCase) (c : Char) : letterCase.same c c :=
  same_iff.mpr rfl

/-- Being the same letter goes both ways. -/
theorem same_symm {letterCase : LetterCase} {a b : Char} (h : letterCase.same a b) :
    letterCase.same b a :=
  same_iff.mpr (same_iff.mp h).symm

/-- Letters that are the same as a third are the same. -/
theorem same_trans {letterCase : LetterCase} {a b c : Char} (hab : letterCase.same a b)
    (hbc : letterCase.same b c) : letterCase.same a c :=
  same_iff.mpr ((same_iff.mp hab).trans (same_iff.mp hbc))

/-- With significant case, only a character itself is the same letter. -/
@[simp] theorem same_sensitive {a b : Char} : LetterCase.sensitive.same a b ↔ a = b := by
  simp [same_iff, key]

/-- Whether a character is the same letter as some member of a list. -/
def memberOf (letterCase : LetterCase) (members : List Char) (c : Char) : Bool :=
  members.any fun member => letterCase.same member c

end LetterCase

end QuotedText
