import QuotedText.Proofs.Text.Window

/-!
# Scans by byte position

A scan may keep its text whole and move a byte position through it. It sees the character at its
position, and none where the position divides a character (`Text.charAt?`): a single step of a wrong
width would look like the end of the text. `ByteScan` is such a loop, and `ByteScan.Answers` says
what each of its rounds does to the text that is left. From the rounds alone follows that the
position keeps to the boundaries of the text up to its end (`ByteScan.Answers.isSafe`), and what the
scan comes to (`ByteScan.Answers.run?_eq`).
-/

namespace QuotedText

namespace Text

/-! ## The text behind a position -/

/-- The text behind a byte position that divides no character. -/
def behind? (text : Text) (position : Nat) : Option Text :=
  text.slice? position text.byteLength

/-- The character at a byte position. -/
def charAt? (text : Text) (position : Nat) : Option Char :=
  (text.behind? position).bind List.head?

/-- The characters of a text that starts at the byte position `start`, with their positions. -/
def charPositions (start : Nat) : Text → List (Nat × Char)
  | [] => []
  | c :: rest => (start, c) :: charPositions (start + c.utf8Size) rest

/-- At a boundary, the text behind it is seen. -/
theorem behind?_append (front back : Text) :
    behind? (front ++ back) front.byteLength = some back :=
  slice?_of_slice ⟨front, [], (List.append_nil _).symm, rfl, (byteLength_append front back).symm⟩

/-- At a boundary, the first character behind it is seen. -/
theorem charAt?_append (front back : Text) :
    charAt? (front ++ back) front.byteLength = back.head? := by
  rw [charAt?, behind?_append, Option.bind_some]

/-- A character that is seen at a boundary stands behind it. -/
theorem exists_cons_of_charAt? {text : Text} {position : Nat} {c : Char}
    (boundary : text.IsBoundary position) (here : text.charAt? position = some c) :
    ∃ (front rest : Text), text = front ++ c :: rest ∧ front.byteLength = position := by
  obtain ⟨front, back, rfl, rfl⟩ := boundary
  rw [charAt?_append] at here
  obtain ⟨rest, rfl⟩ := List.head?_eq_some_iff.mp here
  exact ⟨front, rest, rfl, rfl⟩

/-- A part of a text is cut out between the boundaries before and behind it. -/
theorem slice?_append (front part back : Text) :
    slice? (front ++ (part ++ back)) front.byteLength (front.byteLength + part.byteLength) =
      some part :=
  slice?_of_slice ⟨front, back, (List.append_assoc front part back).symm, rfl, rfl⟩

/-- A position with a character lies before the end. -/
theorem lt_of_charAt? {text : Text} {position : Nat} {c : Char}
    (here : text.charAt? position = some c) : position < text.byteLength := by
  rw [charAt?, behind?, slice?] at here
  split at here
  · rename_i inOrder
    refine Nat.lt_of_le_of_ne inOrder ?_
    rintro rfl
    -- Between the end and the end stands nothing.
    cases taken : takeBytes? text.byteLength text with
    | none => simp [taken] at here
    | some whole => simp [taken] at here
  · contradiction

end Text

/-- What a round of a scan comes to. -/
inductive ByteScan.Round (State Early : Type) where
  /-- The scan goes on at a byte position. -/
  | goOn (position : Nat) (state : State)
  /-- The scan breaks off. -/
  | breakOff (early : Early)

/-- A loop over the characters of a text by their byte positions. -/
structure ByteScan (State Early Result : Type) where
  /-- What a round does at a position and the character there. It has no outcome where it would
  divide a character. -/
  round? : Nat → Char → State → Option (ByteScan.Round State Early)
  /-- The result at a position without a character. -/
  finish : Nat → State → Result

namespace ByteScan

variable {State Early Result : Type}

/-! ## Runs -/

/-- Goes from round to round up to a position without a character. A run has no outcome where a
round has none or does not move forward. -/
def run? (scan : ByteScan State Early Result) (text : Text) (position : Nat) (state : State) :
    Option (Except Early Result) :=
  match _here : text.charAt? position with
  | none => some (.ok (scan.finish position state))
  | some c =>
    match scan.round? position c state with
    | none => none
    | some (.breakOff early) => some (.error early)
    | some (.goOn next state') => if position < next then run? scan text next state' else none
termination_by text.byteLength - position
decreasing_by
  have inside := Text.lt_of_charAt? _here
  omega

/-- A scan that is at `start` in the state `initial` comes to a position in a state. -/
inductive Reaches (scan : ByteScan State Early Result) (text : Text) (start : Nat)
    (initial : State) : Nat → State → Prop
  /-- The scan is where it starts. -/
  | here : Reaches scan text start initial start initial
  /-- The scan has gone on from a character. -/
  | round {position next : Nat} {state state' : State} {c : Char}
      (reached : Reaches scan text start initial position state)
      (here : text.charAt? position = some c)
      (goesOn : scan.round? position c state = some (.goOn next state')) :
      Reaches scan text start initial next state'

/-- Wherever a scan comes to, its position keeps to the boundaries of the text and moves forward
up to its end. -/
structure IsSafe (scan : ByteScan State Early Result) (text : Text) (start : Nat)
    (initial : State) : Prop where
  /-- No position divides a character. -/
  boundary : ∀ {position state}, scan.Reaches text start initial position state →
    text.IsBoundary position
  /-- A position without a character is the end of the text. -/
  atEnd : ∀ {position state}, scan.Reaches text start initial position state →
    text.charAt? position = none → position = text.byteLength
  /-- At a character the round divides no character, and if the scan goes on it does so behind the
  position. -/
  advances : ∀ {position state c}, scan.Reaches text start initial position state →
    text.charAt? position = some c →
    ∃ round, scan.round? position c state = some round ∧
      ∀ next state', round = .goOn next state' → position < next

/-! ## What rounds do to the text that is left -/

/-- A round at a position has `expected` to come to: it breaks off with that, or passes over at
least one character of the text `left` and leaves that to be the answer for the rest. -/
def Round.LeadsTo (answer : Nat → State → Text → Except Early Result) (position : Nat)
    (left : Text) (expected : Except Early Result) : Round State Early → Prop
  | .breakOff early => expected = .error early
  | .goOn next state =>
    ∃ passed rest, left = passed ++ rest ∧ passed ≠ [] ∧ next = position + passed.byteLength ∧
      expected = answer next state rest

/-- A round that passes over one character leaves the answer to the rest. -/
theorem Round.LeadsTo.char {answer : Nat → State → Text → Except Early Result} {position : Nat}
    {c : Char} {rest : Text} {state : State} {expected : Except Early Result}
    (later : expected = answer (position + c.utf8Size) state rest) :
    (goOn (position + c.utf8Size) state).LeadsTo answer position (c :: rest) expected :=
  ⟨[c], rest, rfl, List.cons_ne_nil c [], rfl, later⟩

/-- What a scan of a text comes to is a matter of its position, its state and the text that is
left. -/
structure Answers (scan : ByteScan State Early Result) (text : Text)
    (answer : Nat → State → Text → Except Early Result) : Prop where
  /-- At the end of the text the answer is the result. -/
  finish : ∀ state, answer text.byteLength state [] = .ok (scan.finish text.byteLength state)
  /-- At every character the round leads to the answer. -/
  round : ∀ (front : Text) (c : Char) (rest : Text) (state : State), text = front ++ c :: rest →
    ∃ round, scan.round? front.byteLength c state = some round ∧
      round.LeadsTo answer front.byteLength (c :: rest) (answer front.byteLength state (c :: rest))

variable {scan : ByteScan State Early Result} {text : Text}
  {answer : Nat → State → Text → Except Early Result}

/-- A round at a boundary goes on at a boundary behind it. -/
theorem Answers.boundary_of_goOn (answers : scan.Answers text answer) {position next : Nat}
    {state state' : State} {c : Char} (boundary : text.IsBoundary position)
    (here : text.charAt? position = some c)
    (goesOn : scan.round? position c state = some (.goOn next state')) :
    position < next ∧ text.IsBoundary next := by
  obtain ⟨front, rest, rfl, rfl⟩ := Text.exists_cons_of_charAt? boundary here
  obtain ⟨round, outcome, leads⟩ := answers.round front c rest state rfl
  obtain rfl : round = .goOn next state' := Option.some.inj (outcome.symm.trans goesOn)
  obtain ⟨passed, left, split, nonempty, rfl, -⟩ := leads
  have forward := Text.byteLength_pos nonempty
  refine ⟨by omega, front ++ passed, left, ?_, Text.byteLength_append front passed⟩
  rw [split, List.append_assoc]

/-- A scan that starts at a boundary is safe when its rounds lead to an answer. -/
theorem Answers.isSafe (answers : scan.Answers text answer) {start : Nat}
    (boundary : text.IsBoundary start) (initial : State) : scan.IsSafe text start initial := by
  have boundaries {position : Nat} {state : State}
      (reached : scan.Reaches text start initial position state) : text.IsBoundary position := by
    induction reached with
    | here => exact boundary
    | round _ here goesOn ih => exact (answers.boundary_of_goOn ih here goesOn).2
  refine ⟨boundaries, ?_, ?_⟩
  · intro position state reached nothing
    obtain ⟨front, back, rfl, rfl⟩ := boundaries reached
    rw [Text.charAt?_append, List.head?_eq_none_iff] at nothing
    rw [nothing, List.append_nil]
  · intro position state c reached here
    obtain ⟨front, rest, split, rfl⟩ := Text.exists_cons_of_charAt? (boundaries reached) here
    obtain ⟨round, outcome, -⟩ := answers.round front c rest state split
    refine ⟨round, outcome, ?_⟩
    rintro next state' rfl
    exact (answers.boundary_of_goOn (boundaries reached) here outcome).1

/-- A scan at a boundary comes to its answer. -/
theorem Answers.run?_eq (answers : scan.Answers text answer) {front back : Text}
    (split : text = front ++ back) (state : State) :
    scan.run? text front.byteLength state = some (answer front.byteLength state back) := by
  -- The text that is left gets shorter by what a round passes over.
  induction size : back.length using Nat.strongRecOn generalizing front back state with
  | _ count ih =>
    have seen : text.charAt? front.byteLength = back.head? := by rw [split, Text.charAt?_append]
    cases back with
    | nil =>
      obtain rfl : text = front := by rw [split, List.append_nil]
      rw [run?]
      split
      · rw [answers.finish]
      · rename_i c here
        rw [seen] at here
        contradiction
    | cons c rest =>
      obtain ⟨round, outcome, leads⟩ := answers.round front c rest state split
      rw [run?]
      split
      · rename_i here
        rw [seen] at here
        contradiction
      · rename_i d here
        obtain rfl : c = d := Option.some.inj (seen.symm.trans here)
        rw [outcome]
        cases round with
        | breakOff early => rw [leads]
        | goOn next state' =>
          obtain ⟨passed, left, whole, nonempty, rfl, expected⟩ := leads
          have forward := Text.byteLength_pos nonempty
          have fewer : left.length < count := by
            have sizes := congrArg List.length whole
            have positive := List.length_pos_iff.mpr nonempty
            rw [List.length_append] at sizes
            omega
          have further : text = (front ++ passed) ++ left := by
            rw [split, whole, List.append_assoc]
          simp only
          rw [if_pos (by omega), ← Text.byteLength_append, ih left.length fewer further state' rfl,
            expected, Text.byteLength_append]

/-- From the start of a text a scan comes to its answer for the whole of it. -/
theorem Answers.run?_zero (answers : scan.Answers text answer) (state : State) :
    scan.run? text 0 state = some (answer 0 state text) :=
  answers.run?_eq (List.nil_append text).symm state

end ByteScan

end QuotedText
