import QuotedText.Text.ByteBudget

/-!
# Windows on a text

Cursors count characters, while a text is cut at byte positions; `Text.offset?` gives the position
of a cursor. A window is the text behind a cursor, up to a length; a probe trails a cursor when it
stands right behind it and leads a cursor when it stands right before it. A cursor past the end of
the text sees nothing, not even the empty probe. Delimiters are found at byte positions, and what
stands between two of them is cut out there. Each of these comes in two forms: the one whose name
ends with a question mark has no result where it would cut through a character.
-/

namespace QuotedText.Text

/-- The byte positions between the characters of a text that starts at the position `start`, with
those of both ends. -/
def cutPositions (start : Nat) : Text → List Nat
  | [] => [start]
  | c :: rest => start :: cutPositions (start + c.utf8Size) rest

/-- The byte position of a cursor that is not past the end. -/
def offset? (text : Text) (cursor : Nat) : Option Nat :=
  (cutPositions 0 text)[cursor]?

/-- The text between two byte positions that are in order and divide no character. -/
def slice? (text : Text) (start stop : Nat) : Option Text :=
  if start ≤ stop then
    match takeBytes? start text, takeBytes? stop text with
    | some before, some upTo => some (upTo.drop before.length)
    | _, _ => none
  else none

/-- Up to `length` characters behind the cursor `start`. -/
def window? (text : Text) (start length : Nat) : Option Text :=
  match text.offset? start with
  | some offset =>
    (text.slice? offset text.byteLength).bind fun rest =>
      rest.slice? 0 ((rest.offset? length).getD rest.byteLength)
  | none => some []

/-- Whether `probe` ends at the cursor. -/
def leads? (text : Text) (cursor : Nat) (probe : Text) : Option Bool :=
  match text.offset? cursor with
  | some offset => (text.slice? 0 offset).map probe.isSuffixOf
  | none => some false

/-- Whether `probe` starts at the cursor. -/
def trails? (text : Text) (cursor : Nat) (probe : Text) : Option Bool :=
  match text.offset? cursor with
  | some offset => (text.slice? offset text.byteLength).map probe.isPrefixOf
  | none => some false

/-- The byte position of the first occurrence of `pattern`. -/
def firstOccurrence? (pattern : Text) : Text → Option Nat
  | [] => if pattern.isEmpty then some 0 else none
  | c :: rest =>
    if pattern.isPrefixOf (c :: rest) then some 0
    else (firstOccurrence? pattern rest).map (c.utf8Size + ·)

/-- The byte position of the last occurrence of `pattern`. -/
def lastOccurrence? (pattern : Text) : Text → Option Nat
  | [] => if pattern.isEmpty then some 0 else none
  | c :: rest =>
    match lastOccurrence? pattern rest with
    | some position => some (c.utf8Size + position)
    | none => if pattern.isPrefixOf (c :: rest) then some 0 else none

/-- Which occurrence of a delimiter counts. -/
inductive Occurrence where
  | first
  | last
deriving DecidableEq, Repr

/-- The byte position of the occurrence of `pattern` that counts. -/
def occurrence? : Occurrence → Text → Text → Option Nat
  | .first => firstOccurrence?
  | .last => lastOccurrence?

/-- The text between two delimiters, each searched for in the whole text. It is empty when one of
them is missing or the opening one does not end before the closing one starts. -/
def between? (text : Text) (occurrence : Occurrence) (opening closing : Text) : Option Text :=
  match occurrence? occurrence opening text, occurrence? occurrence closing text with
  | some start, some stop =>
    if start + opening.byteLength ≤ stop then text.slice? (start + opening.byteLength) stop
    else some []
  | _, _ => some []

/-- Up to `length` characters behind the cursor `start`; see `Text.window?`. -/
def window (text : Text) (start length : Nat) : Text :=
  (text.window? start length).getD []

/-- Whether `probe` ends at the cursor; see `Text.leads?`. -/
def leads (text : Text) (cursor : Nat) (probe : Text) : Bool :=
  (text.leads? cursor probe).getD false

/-- Whether `probe` starts at the cursor; see `Text.trails?`. -/
def trails (text : Text) (cursor : Nat) (probe : Text) : Bool :=
  (text.trails? cursor probe).getD false

/-- The text between two delimiters; see `Text.between?`. -/
def between (text : Text) (occurrence : Occurrence) (opening closing : Text) : Text :=
  (text.between? occurrence opening closing).getD []

end QuotedText.Text
