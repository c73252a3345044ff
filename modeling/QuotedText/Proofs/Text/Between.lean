import QuotedText.Proofs.Text.Window

/-!
# Text between delimiters

The position that a search finds is that of the occurrence that counts
(`Text.occurrence?_eq_some_iff`). Two delimiters are searched for on their own, so they may overlap
or stand in the wrong order; text stands between them exactly when the opening one ends before the
closing one starts (`Text.between?_of_isBetween`, `Text.isBetween_or_between?`). Reversing the text
and the delimiters turns the first occurrences into the last ones and reverses what stands between
them (`Text.between_reverse`).
-/

namespace QuotedText.Text

/-! ## Occurrences -/

/-- An occurrence of `pattern` starts at a byte position of a text. -/
def OccursAt (text pattern : Text) (position : Nat) : Prop :=
  ∃ front back, text = front ++ pattern ++ back ∧ front.byteLength = position

/-- Of two positions, the first is the one that counts. -/
def Occurrence.Prefers : Occurrence → Nat → Nat → Prop
  | .first, position, other => position ≤ other
  | .last, position, other => other ≤ position

/-- The occurrence of `pattern` that counts starts at a byte position of a text. -/
structure Counts (occurrence : Occurrence) (text pattern : Text) (position : Nat) : Prop where
  /-- An occurrence starts there. -/
  occurs : text.OccursAt pattern position
  /-- It counts before every other. -/
  prefers : ∀ other, text.OccursAt pattern other → occurrence.Prefers position other

/-- Only the empty text occurs in the empty text. -/
theorem occursAt_nil_iff {pattern : Text} {position : Nat} :
    OccursAt [] pattern position ↔ pattern = [] ∧ position = 0 := by
  constructor
  · rintro ⟨front, back, empty, rfl⟩
    obtain ⟨joined, -⟩ := List.append_eq_nil_iff.mp empty.symm
    obtain ⟨rfl, rfl⟩ := List.append_eq_nil_iff.mp joined
    exact ⟨rfl, rfl⟩
  · rintro ⟨rfl, rfl⟩
    exact ⟨[], [], rfl, rfl⟩

/-- An occurrence stands at the head of a text or behind its first character. -/
theorem occursAt_cons_iff {c : Char} {rest pattern : Text} {position : Nat} :
    OccursAt (c :: rest) pattern position ↔
      (position = 0 ∧ pattern <+: c :: rest) ∨
        ∃ later, rest.OccursAt pattern later ∧ position = c.utf8Size + later := by
  constructor
  · rintro ⟨front, back, split, rfl⟩
    cases front with
    | nil => exact .inl ⟨rfl, back, split.symm⟩
    | cons d front =>
      obtain ⟨rfl, rfl⟩ := List.cons.inj split
      exact .inr ⟨_, ⟨front, back, rfl, rfl⟩, rfl⟩
  · rintro (⟨rfl, back, split⟩ | ⟨_, ⟨front, back, rfl, rfl⟩, rfl⟩)
    · exact ⟨[], back, split.symm, rfl⟩
    · exact ⟨c :: front, back, rfl, rfl⟩

/-- Nothing is found where there is no occurrence. -/
theorem not_occursAt_of_firstOccurrence? {text pattern : Text}
    (none : firstOccurrence? pattern text = none) (position : Nat) :
    ¬text.OccursAt pattern position := by
  induction text generalizing position with
  | nil =>
    rw [occursAt_nil_iff]
    rintro ⟨rfl, -⟩
    contradiction
  | cons c rest ih =>
    rw [firstOccurrence?] at none
    split at none
    · contradiction
    · rename_i elsewhere
      rw [occursAt_cons_iff]
      rintro (⟨-, starts⟩ | ⟨later, occurs, -⟩)
      · exact elsewhere (List.isPrefixOf_iff_prefix.mpr starts)
      · exact ih (Option.map_eq_none_iff.mp none) later occurs

/-- What is found first is an occurrence before all others. -/
theorem counts_of_firstOccurrence? {text pattern : Text} {position : Nat}
    (found : firstOccurrence? pattern text = some position) :
    Counts .first text pattern position := by
  induction text generalizing position with
  | nil =>
    rw [firstOccurrence?] at found
    split at found
    · rename_i empty
      obtain rfl := Option.some.inj found
      exact ⟨occursAt_nil_iff.mpr ⟨List.isEmpty_iff.mp empty, rfl⟩,
        fun other _ => Nat.zero_le other⟩
    · contradiction
  | cons c rest ih =>
    rw [firstOccurrence?] at found
    split at found
    · rename_i starts
      obtain rfl := Option.some.inj found
      exact ⟨occursAt_cons_iff.mpr (.inl ⟨rfl, List.isPrefixOf_iff_prefix.mp starts⟩),
        fun other _ => Nat.zero_le other⟩
    · rename_i elsewhere
      obtain ⟨later, foundLater, rfl⟩ := Option.map_eq_some_iff.mp found
      obtain ⟨occurs, prefers⟩ := ih foundLater
      refine ⟨occursAt_cons_iff.mpr (.inr ⟨later, occurs, rfl⟩), fun other occursOther => ?_⟩
      rcases occursAt_cons_iff.mp occursOther with ⟨-, starts⟩ | ⟨behind, occursBehind, rfl⟩
      · exact absurd (List.isPrefixOf_iff_prefix.mpr starts) elsewhere
      · exact Nat.add_le_add_left (prefers behind occursBehind) _

/-- No last occurrence is found where there is none. -/
theorem not_occursAt_of_lastOccurrence? {text pattern : Text}
    (none : lastOccurrence? pattern text = none) (position : Nat) :
    ¬text.OccursAt pattern position := by
  induction text generalizing position with
  | nil =>
    rw [occursAt_nil_iff]
    rintro ⟨rfl, -⟩
    contradiction
  | cons c rest ih =>
    rw [lastOccurrence?] at none
    split at none
    · contradiction
    · rename_i noneLater
      rw [occursAt_cons_iff]
      rintro (⟨-, starts⟩ | ⟨later, occurs, -⟩)
      · rw [if_pos (List.isPrefixOf_iff_prefix.mpr starts)] at none
        contradiction
      · exact ih noneLater later occurs

/-- What is found last is an occurrence behind all others. -/
theorem counts_of_lastOccurrence? {text pattern : Text} {position : Nat}
    (found : lastOccurrence? pattern text = some position) :
    Counts .last text pattern position := by
  induction text generalizing position with
  | nil =>
    rw [lastOccurrence?] at found
    split at found
    · rename_i empty
      obtain rfl := Option.some.inj found
      refine ⟨occursAt_nil_iff.mpr ⟨List.isEmpty_iff.mp empty, rfl⟩, fun other occursOther => ?_⟩
      exact Nat.le_of_eq (occursAt_nil_iff.mp occursOther).2
    · contradiction
  | cons c rest ih =>
    rw [lastOccurrence?] at found
    split at found
    · rename_i later foundLater
      obtain rfl := Option.some.inj found
      obtain ⟨occurs, prefers⟩ := ih foundLater
      refine ⟨occursAt_cons_iff.mpr (.inr ⟨later, occurs, rfl⟩), fun other occursOther => ?_⟩
      rcases occursAt_cons_iff.mp occursOther with ⟨rfl, -⟩ | ⟨behind, occursBehind, rfl⟩
      · exact Nat.zero_le _
      · exact Nat.add_le_add_left (prefers behind occursBehind) _
    · rename_i noneLater
      split at found
      · rename_i starts
        obtain rfl := Option.some.inj found
        refine ⟨occursAt_cons_iff.mpr (.inl ⟨rfl, List.isPrefixOf_iff_prefix.mp starts⟩),
          fun other occursOther => ?_⟩
        rcases occursAt_cons_iff.mp occursOther with ⟨rfl, -⟩ | ⟨behind, occursBehind, -⟩
        · exact Nat.le_refl 0
        · exact absurd occursBehind (not_occursAt_of_lastOccurrence? noneLater behind)
      · contradiction

/-- Two occurrences that both count before every other are one. -/
theorem Counts.unique {occurrence : Occurrence} {text pattern : Text} {position other : Nat}
    (counts : Counts occurrence text pattern position)
    (otherCounts : Counts occurrence text pattern other) : position = other := by
  have before := counts.prefers other otherCounts.occurs
  have behind := otherCounts.prefers position counts.occurs
  cases occurrence with
  | first => exact Nat.le_antisymm before behind
  | last => exact Nat.le_antisymm behind before

/-- A search finds the position of the occurrence that counts. -/
theorem occurrence?_eq_some_iff {occurrence : Occurrence} {text pattern : Text} {position : Nat} :
    occurrence? occurrence pattern text = some position ↔
      Counts occurrence text pattern position := by
  have sound : ∀ found, occurrence? occurrence pattern text = some found →
      Counts occurrence text pattern found := by
    cases occurrence with
    | first => exact fun _ => counts_of_firstOccurrence?
    | last => exact fun _ => counts_of_lastOccurrence?
  have complete : occurrence? occurrence pattern text = none →
      ¬text.OccursAt pattern position := by
    cases occurrence with
    | first => exact fun none => not_occursAt_of_firstOccurrence? none position
    | last => exact fun none => not_occursAt_of_lastOccurrence? none position
  refine ⟨sound position, fun counts => ?_⟩
  cases search : occurrence? occurrence pattern text with
  | none => exact absurd counts.occurs (complete search)
  | some found => rw [(sound found search).unique counts]

/-! ## What stands between -/

/-- `part` stands between the occurrences of two delimiters that count. -/
def IsBetween (occurrence : Occurrence) (text opening closing part : Text) : Prop :=
  ∃ before after, text = before ++ opening ++ part ++ closing ++ after ∧
    Counts occurrence text opening before.byteLength ∧
    Counts occurrence text closing (before ++ opening ++ part).byteLength

/-- What stands between two delimiters is cut out. -/
theorem between?_of_isBetween {occurrence : Occurrence} {text opening closing part : Text}
    (isBetween : IsBetween occurrence text opening closing part) :
    text.between? occurrence opening closing = some part := by
  obtain ⟨before, after, split, opens, closes⟩ := isBetween
  rw [between?, occurrence?_eq_some_iff.mpr opens, occurrence?_eq_some_iff.mpr closes]
  dsimp only
  rw [byteLength_append, byteLength_append, if_pos (Nat.le_add_right _ _)]
  refine slice?_of_slice ⟨before ++ opening, closing ++ after, ?_, byteLength_append _ _, rfl⟩
  rw [split, List.append_assoc _ closing]

/-- Either text stands between the delimiters or there is nothing to cut out. -/
theorem isBetween_or_between? (occurrence : Occurrence) (text opening closing : Text) :
    (∃ part, IsBetween occurrence text opening closing part) ∨
      text.between? occurrence opening closing = some [] := by
  rw [between?]
  split
  · rename_i start stop foundStart foundStop
    split
    · rename_i inOrder
      left
      have opens := occurrence?_eq_some_iff.mp foundStart
      have closes := occurrence?_eq_some_iff.mp foundStop
      obtain ⟨before, behind, openSplit, rfl⟩ := opens.occurs
      obtain ⟨upTo, after, closeSplit, rfl⟩ := closes.occurs
      rw [← byteLength_append] at inOrder
      have same : before ++ opening ++ behind = upTo ++ (closing ++ after) := by
        rw [← openSplit, closeSplit, List.append_assoc]
      obtain ⟨part, rfl, -⟩ := exists_between same inOrder
      exact ⟨part, before, after, closeSplit, opens, closes⟩
    · exact .inr rfl
  · exact .inr rfl

/-- The cut between two delimiters never goes through a character. -/
theorem between?_eq_some (occurrence : Occurrence) (text opening closing : Text) :
    text.between? occurrence opening closing = some (text.between occurrence opening closing) := by
  rw [between]
  rcases isBetween_or_between? occurrence text opening closing with ⟨part, isBetween⟩ | nothing
  · rw [between?_of_isBetween isBetween, Option.getD_some]
  · rw [nothing, Option.getD_some]

/-- A part with a character is cut out exactly when it stands between the delimiters. -/
theorem between_eq_iff {occurrence : Occurrence} {text opening closing part : Text}
    (nonempty : part ≠ []) : text.between occurrence opening closing = part ↔
      IsBetween occurrence text opening closing part := by
  constructor
  · rintro rfl
    rw [between] at nonempty ⊢
    rcases isBetween_or_between? occurrence text opening closing with ⟨part, isBetween⟩ | nothing
    · rwa [between?_of_isBetween isBetween, Option.getD_some]
    · rw [nothing] at nonempty
      contradiction
  · intro isBetween
    rw [between, between?_of_isBetween isBetween, Option.getD_some]

/-- Text before the first closing delimiter does not hold it. -/
theorem not_infix_of_first {text opening closing part : Text} (nonempty : closing ≠ [])
    (isBetween : IsBetween .first text opening closing part) : ¬closing <:+: part := by
  obtain ⟨before, after, split, -, closes⟩ := isBetween
  rintro ⟨front, back, rfl⟩
  have earlier : text.OccursAt closing (before ++ opening ++ front).byteLength :=
    ⟨before ++ opening ++ front, back ++ closing ++ after, by simp [split], rfl⟩
  have positive := byteLength_pos nonempty
  have late : (before ++ opening ++ (front ++ closing ++ back)).byteLength ≤
      (before ++ opening ++ front).byteLength := closes.prefers _ earlier
  simp only [byteLength_append] at late
  omega

/-- Text behind the last opening delimiter does not hold it. -/
theorem not_infix_of_last {text opening closing part : Text} (nonempty : opening ≠ [])
    (isBetween : IsBetween .last text opening closing part) : ¬opening <:+: part := by
  obtain ⟨before, after, split, opens, -⟩ := isBetween
  rintro ⟨front, back, rfl⟩
  have later : text.OccursAt opening (before ++ opening ++ front).byteLength :=
    ⟨before ++ opening ++ front, back ++ closing ++ after, by simp [split], rfl⟩
  have positive := byteLength_pos nonempty
  have early : (before ++ opening ++ front).byteLength ≤ before.byteLength :=
    opens.prefers _ later
  simp only [byteLength_append] at early
  omega

/-- A delimiter that never stands between is not in what is cut out. -/
theorem not_infix_between {occurrence : Occurrence} {text opening closing delimiter : Text}
    (nonempty : delimiter ≠ [])
    (apart : ∀ part, IsBetween occurrence text opening closing part → ¬delimiter <:+: part) :
    ¬delimiter <:+: text.between occurrence opening closing := by
  rw [between]
  rcases isBetween_or_between? occurrence text opening closing with ⟨part, isBetween⟩ | nothing
  · rw [between?_of_isBetween isBetween]
    exact apart part isBetween
  · rw [nothing]
    exact fun holds => nonempty (List.infix_nil.mp holds)

/-! ## Reversed texts -/

/-- The occurrence that counts in the reversed text. -/
def Occurrence.mirror : Occurrence → Occurrence
  | .first => .last
  | .last => .first

/-- A reversed text has the same bytes. -/
@[simp] theorem byteLength_reverse (text : Text) : byteLength text.reverse = text.byteLength := by
  induction text with
  | nil => rfl
  | cons c rest ih =>
    rw [List.reverse_cons, byteLength_append, ih, byteLength_cons, byteLength_cons,
      byteLength_nil, Nat.add_zero, Nat.add_comm]

/-- An occurrence is one of the reversed pattern in the reversed text, with as many bytes before
it as there were behind it. -/
theorem OccursAt.reverse {text pattern : Text} {position : Nat}
    (occurs : text.OccursAt pattern position) :
    ∃ behind, position + pattern.byteLength + behind = text.byteLength ∧
      OccursAt text.reverse pattern.reverse behind := by
  obtain ⟨front, back, rfl, rfl⟩ := occurs
  refine ⟨back.byteLength, by simp only [byteLength_append], back.reverse, front.reverse, ?_,
    byteLength_reverse back⟩
  simp only [List.reverse_append, List.append_assoc]

/-- The occurrence that counts is the one that counts in the reversed text, from the other end. -/
theorem Counts.reverse {occurrence : Occurrence} {text pattern : Text} {position behind : Nat}
    (counts : Counts occurrence text pattern position)
    (ends : position + pattern.byteLength + behind = text.byteLength) :
    Counts occurrence.mirror text.reverse pattern.reverse behind := by
  obtain ⟨back, total, occurs⟩ := counts.occurs.reverse
  obtain rfl : back = behind := by omega
  refine ⟨occurs, fun other occursOther => ?_⟩
  obtain ⟨place, otherTotal, occursPlace⟩ := occursOther.reverse
  rw [List.reverse_reverse, List.reverse_reverse] at occursPlace
  rw [byteLength_reverse, byteLength_reverse] at otherTotal
  have prefers := counts.prefers place occursPlace
  cases occurrence with
  | first =>
    change position ≤ place at prefers
    change other ≤ back
    omega
  | last =>
    change place ≤ position at prefers
    change back ≤ other
    omega

/-- What stands between two delimiters stands, reversed, between the reversed ones. -/
theorem IsBetween.reverse {occurrence : Occurrence} {text opening closing part : Text}
    (isBetween : IsBetween occurrence text opening closing part) :
    IsBetween occurrence.mirror text.reverse closing.reverse opening.reverse part.reverse := by
  obtain ⟨before, after, split, opens, closes⟩ := isBetween
  refine ⟨after.reverse, before.reverse, ?_, closes.reverse ?_, opens.reverse ?_⟩
  · simp only [split, List.reverse_append, List.append_assoc]
  · simp only [split, byteLength_append, byteLength_reverse]
  · simp only [split, byteLength_append, byteLength_reverse]
    omega

/-- The mirror of a mirror is the occurrence itself. -/
@[simp] theorem Occurrence.mirror_mirror (occurrence : Occurrence) :
    occurrence.mirror.mirror = occurrence := by
  cases occurrence <;> rfl

/-- Reversing text and delimiters reverses what stands between. -/
theorem between_reverse (occurrence : Occurrence) (text opening closing : Text) :
    between text.reverse occurrence.mirror closing.reverse opening.reverse =
      (text.between occurrence opening closing).reverse := by
  rcases isBetween_or_between? occurrence text opening closing with ⟨part, isBetween⟩ | nothing
  · rw [between, between, between?_of_isBetween isBetween,
      between?_of_isBetween isBetween.reverse]
    rfl
  rcases isBetween_or_between? occurrence.mirror text.reverse closing.reverse opening.reverse with
    ⟨part, mirrored⟩ | mirroredNothing
  · have isBetween := mirrored.reverse
    simp only [List.reverse_reverse, Occurrence.mirror_mirror] at isBetween
    rw [between, between, between?_of_isBetween mirrored, between?_of_isBetween isBetween]
    exact (List.reverse_reverse part).symm
  · rw [between, between, nothing, mirroredNothing]
    rfl

/-- The text between two delimiters, in both modes. The cut goes through no character. A part with
a character is the result exactly when it stands between the occurrences that count; the result
then does not hold the delimiter whose occurrence ends the search. Reversing text and delimiters
exchanges the modes. -/
theorem between_laws (occurrence : Occurrence) (text opening closing : Text) :
    text.between? occurrence opening closing = some (text.between occurrence opening closing) ∧
      (∀ part, part ≠ [] → (text.between occurrence opening closing = part ↔
        IsBetween occurrence text opening closing part)) ∧
      (occurrence = .first → closing ≠ [] →
        ¬closing <:+: text.between occurrence opening closing) ∧
      (occurrence = .last → opening ≠ [] →
        ¬opening <:+: text.between occurrence opening closing) ∧
      between text.reverse occurrence.mirror closing.reverse opening.reverse =
        (text.between occurrence opening closing).reverse := by
  refine ⟨between?_eq_some occurrence text opening closing, fun part => between_eq_iff, ?_, ?_,
    between_reverse occurrence text opening closing⟩
  · rintro rfl nonempty
    exact not_infix_between nonempty fun part => not_infix_of_first nonempty
  · rintro rfl nonempty
    exact not_infix_between nonempty fun part => not_infix_of_last nonempty

/-- The last brackets of a text stand around one character of two bytes. -/
theorem between_laws_last_brackets :
    between "¢[a][ä]é".toList .last ['['] [']'] = ['ä'] ∧
      IsBetween .last "¢[a][ä]é".toList ['['] [']'] ['ä'] ∧
      ¬['['] <:+: ['ä'] ∧
      between "é]ä[]a[¢".toList .first [']'] ['['] = ['ä'] := by
  have found : between "¢[a][ä]é".toList .last ['['] [']'] = ['ä'] := by decide +kernel
  obtain ⟨-, stands, -, noOpening, reversed⟩ :=
    between_laws .last "¢[a][ä]é".toList ['['] [']']
  rw [found] at noOpening reversed
  exact ⟨found, (stands ['ä'] (by decide)).mp found, noOpening rfl (by decide), reversed⟩

end QuotedText.Text
