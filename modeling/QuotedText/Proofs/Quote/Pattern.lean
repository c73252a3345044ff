import Mathlib.Data.List.Forall2
import QuotedText.Quote.Pattern

/-!
# Agreement with a pattern

Reading a pattern at the head of a text succeeds when the text begins with characters that agree
with it one by one (`LetterCase.match?_eq_some_iff`). As a pattern has at least one character, so
has every text that agrees with it. Agreement is an equivalence of texts, and of whole texts when
it is one of their parts. A pattern that matches no quote cannot match across one
(`QuoteStyle.matchesHead_append_iff`).
-/

namespace QuotedText

namespace LetterCase

variable {letterCase : LetterCase}

/-- Two texts agree when they have the same letters one by one. -/
def Agrees (letterCase : LetterCase) (text pattern : Text) : Prop :=
  List.Forall₂ (fun c p => letterCase.same c p) text pattern

/-- A pattern matches at the head of a text when the text begins with something that agrees. -/
def MatchesHead (letterCase : LetterCase) (pattern text : Text) : Prop :=
  ∃ matched, matched <+: text ∧ letterCase.Agrees matched pattern

/-- A pattern matches in a text when some characters in a row agree with it. -/
def MatchesIn (letterCase : LetterCase) (pattern text : Text) : Prop :=
  ∃ matched, matched <:+: text ∧ letterCase.Agrees matched pattern

/-- Every character of a text is the same letter as one of the pattern it agrees with. -/
theorem Agrees.exists_same {text pattern : Text} (agrees : letterCase.Agrees text pattern)
    {c : Char} (member : c ∈ text) : ∃ p ∈ pattern, letterCase.same c p := by
  induction agrees with
  | nil => contradiction
  | @cons d p text pattern same _ ih =>
    rcases List.mem_cons.mp member with rfl | later
    · exact ⟨p, List.mem_cons_self, same⟩
    · obtain ⟨q, isPattern, same⟩ := ih later
      exact ⟨q, List.mem_cons_of_mem p isPattern, same⟩

/-- Nothing agrees with a pattern that is not empty but text. -/
theorem Agrees.ne_nil {text pattern : Text} (agrees : letterCase.Agrees text pattern)
    (nonempty : pattern ≠ []) : text ≠ [] := by
  rintro rfl
  cases agrees
  contradiction

/-- Agreement goes both ways. -/
theorem Agrees.symm {text text' : Text} (agrees : letterCase.Agrees text text') :
    letterCase.Agrees text' text :=
  (agrees.imp fun _ _ => same_symm).flip

/-- Texts that agree with a third agree. -/
theorem Agrees.trans {text text' text'' : Text} (agrees : letterCase.Agrees text text')
    (agrees' : letterCase.Agrees text' text'') : letterCase.Agrees text text'' := by
  induction agrees generalizing text'' with
  | nil => exact agrees'
  | cons same _ ih =>
    cases agrees' with
    | cons same' more => exact .cons (same_trans same same') (ih more)

/-- Texts agree when their parts do. -/
theorem Agrees.append {front front' rest rest' : Text} (first : letterCase.Agrees front front')
    (second : letterCase.Agrees rest rest') :
    letterCase.Agrees (front ++ rest) (front' ++ rest') :=
  List.rel_append first second

/-- A text that agrees with one that has a first character has a first character too. -/
theorem Agrees.exists_cons {c : Char} {rest text' : Text}
    (agrees : letterCase.Agrees (c :: rest) text') :
    ∃ c' rest', text' = c' :: rest' ∧ letterCase.same c c' ∧ letterCase.Agrees rest rest' := by
  cases agrees with
  | cons same rests => exact ⟨_, _, rfl, same, rests⟩

/-- A text that agrees with a joined text has parts that agree with its parts. -/
theorem Agrees.exists_append {front rest text' : Text}
    (agrees : letterCase.Agrees (front ++ rest) text') :
    ∃ front' rest', text' = front' ++ rest' ∧ letterCase.Agrees front front' ∧
      letterCase.Agrees rest rest' := by
  have first := List.forall₂_take_append text' front rest agrees.symm
  have second := List.forall₂_drop_append text' front rest agrees.symm
  exact ⟨_, _, (List.take_append_drop front.length text').symm, Agrees.symm first,
    Agrees.symm second⟩

/-- A pattern matches at the head of a text when a pattern that agrees does at the head of a text
that agrees. -/
theorem MatchesHead.of_agrees {pattern pattern' text text' : Text}
    (found : letterCase.MatchesHead pattern text) (texts : letterCase.Agrees text text')
    (patterns : letterCase.Agrees pattern pattern') : letterCase.MatchesHead pattern' text' := by
  obtain ⟨matched, ⟨after, rfl⟩, here⟩ := found
  obtain ⟨matched', after', rfl, same, -⟩ := texts.exists_append
  exact ⟨matched', List.prefix_append matched' after', same.symm.trans (here.trans patterns)⟩

/-- A pattern is read at the head of a text when the text begins with what agrees with it. -/
theorem match?_eq_some_iff {pattern text matched rest : Text} :
    letterCase.match? pattern text = some (matched, rest) ↔
      text = matched ++ rest ∧ letterCase.Agrees matched pattern := by
  induction pattern generalizing text matched with
  | nil =>
    constructor
    · intro found
      obtain ⟨rfl, rfl⟩ : [] = matched ∧ text = rest := by simpa [match?] using found
      exact ⟨rfl, .nil⟩
    · rintro ⟨rfl, agrees⟩
      cases agrees
      rfl
  | cons p pattern ih =>
    cases text with
    | nil =>
      constructor
      · intro found
        contradiction
      · rintro ⟨whole, agrees⟩
        obtain ⟨rfl, -⟩ := List.nil_eq_append_iff.mp whole
        cases agrees
    | cons c text =>
      constructor
      · intro found
        rw [match?] at found
        split at found
        · rename_i same
          obtain ⟨⟨front, back⟩, foundRest, equal⟩ := Option.map_eq_some_iff.mp found
          obtain ⟨rfl, rfl⟩ := Prod.mk.inj equal
          obtain ⟨rfl, agrees⟩ := ih.mp foundRest
          exact ⟨rfl, .cons same agrees⟩
        · contradiction
      · rintro ⟨whole, agrees⟩
        cases agrees with
        | @cons d _ front _ same agrees =>
          rw [List.cons_append, List.cons.injEq] at whole
          obtain ⟨rfl, rfl⟩ := whole
          rw [match?, if_pos same, ih.mpr ⟨rfl, agrees⟩]
          rfl

/-- Reading a pattern succeeds when it matches at the head. -/
theorem isSome_match?_iff {pattern text : Text} :
    (letterCase.match? pattern text).isSome ↔ letterCase.MatchesHead pattern text := by
  constructor
  · intro found
    obtain ⟨⟨matched, rest⟩, found⟩ := Option.isSome_iff_exists.mp found
    obtain ⟨rfl, agrees⟩ := match?_eq_some_iff.mp found
    exact ⟨matched, List.prefix_append matched rest, agrees⟩
  · rintro ⟨matched, ⟨rest, rfl⟩, agrees⟩
    rw [match?_eq_some_iff.mpr ⟨rfl, agrees⟩]
    rfl

/-- A pattern that is not empty matches in a text when it does at the head of some rest of it. -/
theorem matchesIn_iff {pattern text : Text} (nonempty : pattern ≠ []) :
    letterCase.MatchesIn pattern text ↔
      ∃ front back, text = front ++ back ∧ back ≠ [] ∧ letterCase.MatchesHead pattern back := by
  constructor
  · rintro ⟨matched, ⟨front, rest, rfl⟩, agrees⟩
    refine ⟨front, matched ++ rest, by simp, ?_, matched, List.prefix_append matched rest, agrees⟩
    exact List.append_ne_nil_of_left_ne_nil (agrees.ne_nil nonempty) rest
  · rintro ⟨front, back, rfl, -, matched, ⟨rest, rfl⟩, agrees⟩
    exact ⟨matched, ⟨front, rest, by simp⟩, agrees⟩

end LetterCase

namespace QuoteStyle

variable {style : QuoteStyle} {letterCase : LetterCase}

/-- What agrees with a pattern that matches no quote has no quote. -/
theorem not_isQuote_of_agrees {text pattern : Text} (agrees : letterCase.Agrees text pattern)
    (apart : ∀ p ∈ pattern, ∀ c, letterCase.same c p → style.isQuote c = false) :
    ∀ c ∈ text, style.isQuote c = false := by
  intro c member
  obtain ⟨p, isPattern, same⟩ := agrees.exists_same member
  exact apart p isPattern c same

/-- A pattern that matches no quote matches no further than to the next quote. -/
theorem matchesHead_append_iff {pattern text rest : Text}
    (apart : ∀ p ∈ pattern, ∀ c, letterCase.same c p → style.isQuote c = false)
    (quote : ∀ c ∈ rest.head?, style.isQuote c) :
    letterCase.MatchesHead pattern (text ++ rest) ↔ letterCase.MatchesHead pattern text := by
  constructor
  · rintro ⟨matched, ⟨tail, whole⟩, agrees⟩
    rcases List.append_eq_append_iff.mp whole with
      ⟨between, rfl, -⟩ | ⟨between, rfl, rfl⟩
    · exact ⟨matched, List.prefix_append matched between, agrees⟩
    · cases between with
      | nil => exact ⟨text, List.prefix_refl text, by simpa using agrees⟩
      | cons c between =>
        have plain := not_isQuote_of_agrees agrees apart c (by simp)
        rw [quote c (by simp)] at plain
        contradiction
  · rintro ⟨matched, begins, agrees⟩
    exact ⟨matched, begins.trans (List.prefix_append text rest), agrees⟩

end QuoteStyle

end QuotedText
