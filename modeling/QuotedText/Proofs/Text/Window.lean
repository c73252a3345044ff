import QuotedText.Proofs.Text.ByteBudget
import QuotedText.Text.Window

/-!
# Cursors

The byte position of a cursor is what the characters before it take up (`Text.offset?_eq_some`), so
a window, a leading probe and a trailing probe are matters of characters alone
(`Text.window?_eq_some`, `Text.leads?_eq_some`, `Text.trails?_eq_some`): no cut goes through a
character. The three describe one cursor (`Text.cursor_laws`).
-/

namespace QuotedText.Text

/-! ## Positions of cursors -/

/-- A cut position is where the characters before it end. -/
theorem getElem?_cutPositions {text : Text} {start cursor : Nat} (inside : cursor ≤ text.length) :
    (cutPositions start text)[cursor]? = some (start + byteLength (text.take cursor)) := by
  induction text generalizing start cursor with
  | nil =>
    obtain rfl : cursor = 0 := Nat.le_zero.mp inside
    rfl
  | cons c rest ih =>
    cases cursor with
    | zero => rfl
    | succ before =>
      rw [cutPositions, List.getElem?_cons_succ, ih (Nat.le_of_succ_le_succ inside),
        List.take_succ_cons, byteLength_cons, Nat.add_assoc]

/-- There is one more cut position than there are characters. -/
theorem length_cutPositions (start : Nat) (text : Text) :
    (cutPositions start text).length = text.length + 1 := by
  induction text generalizing start with
  | nil => rfl
  | cons c rest ih => rw [cutPositions, List.length_cons, ih, List.length_cons]

/-- The position of a cursor is the number of bytes before it. -/
theorem offset?_eq_some {text : Text} {cursor : Nat} (inside : cursor ≤ text.length) :
    text.offset? cursor = some (byteLength (text.take cursor)) := by
  rw [offset?, getElem?_cutPositions inside, Nat.zero_add]

/-- A cursor past the end has no position. -/
theorem offset?_eq_none {text : Text} {cursor : Nat} (past : text.length < cursor) :
    text.offset? cursor = none := by
  rw [offset?, List.getElem?_eq_none_iff, length_cutPositions]
  exact past

/-! ## Cuts at boundaries -/

/-- A part of a text is cut out at the positions of its ends. -/
theorem slice?_of_slice {text part : Text} {start stop : Nat} (slice : text.Slice start stop part) :
    text.slice? start stop = some part := by
  obtain ⟨front, back, rfl, rfl, rfl⟩ := slice
  have before : takeBytes? front.byteLength (front ++ part ++ back) = some front := by
    rw [List.append_assoc]
    exact takeBytes?_byteLength front (part ++ back)
  have upTo : takeBytes? (front.byteLength + part.byteLength) (front ++ part ++ back) =
      some (front ++ part) := by
    rw [← byteLength_append]
    exact takeBytes?_byteLength (front ++ part) back
  rw [slice?, if_pos (Nat.le_add_right _ _), before, upTo]
  exact congrArg some List.drop_left

/-- The text before a cursor is cut out at its position. -/
theorem slice?_take (text : Text) (cursor : Nat) :
    text.slice? 0 (byteLength (text.take cursor)) = some (text.take cursor) :=
  slice?_of_slice ⟨[], text.drop cursor, (List.take_append_drop cursor text).symm, rfl,
    Nat.zero_add _⟩

/-- The text behind a cursor is cut out at its position. -/
theorem slice?_drop (text : Text) (cursor : Nat) :
    text.slice? (byteLength (text.take cursor)) text.byteLength = some (text.drop cursor) := by
  refine slice?_of_slice ⟨text.take cursor, [], ?_, rfl, ?_⟩
  · rw [List.append_nil, List.take_append_drop]
  · rw [← byteLength_append, List.take_append_drop]

/-! ## Windows and probes -/

/-- A window holds the characters behind its cursor. -/
theorem window?_eq_some (text : Text) (start length : Nat) :
    text.window? start length = some ((text.drop start).take length) := by
  by_cases inside : start ≤ text.length
  · rw [window?, offset?_eq_some inside]
    simp only [slice?_drop, Option.bind_some]
    by_cases within : length ≤ (text.drop start).length
    · rw [offset?_eq_some within, Option.getD_some, slice?_take]
    · have whole : (text.drop start).take length = text.drop start :=
        List.take_of_length_le (Nat.le_of_not_le within)
      have cut := slice?_take (text.drop start) length
      rw [whole] at cut
      rw [offset?_eq_none (Nat.lt_of_not_le within), Option.getD_none, cut, whole]
  · have nothing : text.drop start = [] := List.drop_eq_nil_of_le (Nat.le_of_not_le inside)
    rw [window?, offset?_eq_none (Nat.lt_of_not_le inside), nothing, List.take_nil]

/-- A probe leads a cursor when the text before the cursor ends with it. -/
theorem leads?_eq_some (text : Text) (cursor : Nat) (probe : Text) :
    text.leads? cursor probe =
      some (decide (cursor ≤ text.length) && probe.isSuffixOf (text.take cursor)) := by
  by_cases inside : cursor ≤ text.length
  · rw [leads?, offset?_eq_some inside, decide_eq_true inside, Bool.true_and]
    simp only [slice?_take, Option.map_some]
  · rw [leads?, offset?_eq_none (Nat.lt_of_not_le inside), decide_eq_false inside, Bool.false_and]

/-- A probe trails a cursor when the text behind the cursor starts with it. -/
theorem trails?_eq_some (text : Text) (cursor : Nat) (probe : Text) :
    text.trails? cursor probe =
      some (decide (cursor ≤ text.length) && probe.isPrefixOf (text.drop cursor)) := by
  by_cases inside : cursor ≤ text.length
  · rw [trails?, offset?_eq_some inside, decide_eq_true inside, Bool.true_and]
    simp only [slice?_drop, Option.map_some]
  · rw [trails?, offset?_eq_none (Nat.lt_of_not_le inside), decide_eq_false inside,
      Bool.false_and]

/-- A probe leads a cursor when it stands right before it. -/
theorem leads_iff {text probe : Text} {cursor : Nat} :
    text.leads cursor probe = true ↔ cursor ≤ text.length ∧ probe <:+ text.take cursor := by
  rw [leads, leads?_eq_some, Option.getD_some, Bool.and_eq_true, decide_eq_true_iff,
    List.isSuffixOf_iff_suffix]

/-- A probe trails a cursor when it stands right behind it. -/
theorem trails_iff {text probe : Text} {cursor : Nat} :
    text.trails cursor probe = true ↔ cursor ≤ text.length ∧ probe <+: text.drop cursor := by
  rw [trails, trails?_eq_some, Option.getD_some, Bool.and_eq_true, decide_eq_true_iff,
    List.isPrefixOf_iff_prefix]

/-- What ends at a cursor starts as many characters before it as it has. -/
theorem suffix_take_iff {text probe : Text} {cursor : Nat} (inside : cursor ≤ text.length) :
    probe <:+ text.take cursor ↔
      probe.length ≤ cursor ∧ probe <+: text.drop (cursor - probe.length) := by
  have length : (text.take cursor).length = cursor := List.length_take_of_le inside
  rw [List.suffix_iff_eq_drop, length, List.drop_take]
  constructor
  · intro ends
    have short : probe.length ≤ cursor := by
      have size := congrArg List.length ends
      rw [List.length_take] at size
      omega
    refine ⟨short, ?_⟩
    rw [Nat.sub_sub_self short] at ends
    exact List.prefix_iff_eq_take.mpr ends
  · rintro ⟨short, starts⟩
    rw [Nat.sub_sub_self short]
    exact List.prefix_iff_eq_take.mp starts

/-- Windows and probes describe one cursor, and none of them cuts through a character. A window
holds the characters from its cursor to as many behind it as there are; a probe trails a cursor of
the text when it is the window there; it leads a cursor of the text when it trails the cursor that
stands its own length before. -/
theorem cursor_laws (text probe : Text) (cursor length : Nat) :
    text.window? cursor length = some (text.window cursor length) ∧
      text.trails? cursor probe = some (text.trails cursor probe) ∧
      text.leads? cursor probe = some (text.leads cursor probe) ∧
      text.window cursor length =
        text.extract cursor (min text.length (cursor + length)) ∧
      (text.trails cursor probe = true ↔
        cursor ≤ text.length ∧ text.window cursor probe.length = probe) ∧
      (text.leads cursor probe = true ↔
        probe.length ≤ cursor ∧ cursor ≤ text.length ∧
          text.trails (cursor - probe.length) probe = true) := by
  have window_eq (count : Nat) : text.window cursor count = (text.drop cursor).take count := by
    rw [window, window?_eq_some, Option.getD_some]
  refine ⟨?_, ?_, ?_, ?_, ?_, ?_⟩
  · rw [window, window?_eq_some, Option.getD_some]
  · rw [trails, trails?_eq_some, Option.getD_some]
  · rw [leads, leads?_eq_some, Option.getD_some]
  · rw [window_eq, List.extract_eq_take_drop, List.take_eq_take_iff, List.length_drop]
    omega
  · rw [trails_iff, window_eq, List.prefix_iff_eq_take, eq_comm]
  · rw [leads_iff, trails_iff]
    constructor
    · rintro ⟨inside, ends⟩
      obtain ⟨short, starts⟩ := (suffix_take_iff inside).mp ends
      exact ⟨short, inside, by omega, starts⟩
    · rintro ⟨short, inside, -, starts⟩
      exact ⟨inside, (suffix_take_iff inside).mpr ⟨short, starts⟩⟩

end QuotedText.Text
