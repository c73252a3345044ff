import QuotedText.Yaml.Scalar

/-!
# Tokens of a settings document

A settings document is read in two steps, of which this is the first: the text is cut into
symbols, each with the column it stands at and whether it is the first on its line. Comments and
the space between symbols leave no token. Tabs are space only where no block could be indented by
them. Tags, anchors, aliases, directives, explicit keys and block scalars are not part of the
language, and a document that uses one has no tokens. Every symbol takes some text
(`symbol?_lt`), so reading ends.
-/

namespace QuotedText.Yaml

/-- What a token is. -/
inductive Symbol where
  /-- The mark `---` at the start of a line. -/
  | documentStart
  /-- The mark `...` at the start of a line. -/
  | documentEnd
  /-- The dash before an item of a block sequence. -/
  | dash
  /-- The colon behind a key. -/
  | colon
  /-- The comma in a flow collection. -/
  | comma
  | openSequence
  | closeSequence
  | openMapping
  | closeMapping
  /-- A scalar and whether it stands on one line. -/
  | scalar (text : Text) (oneLine : Bool)
deriving DecidableEq, Repr

/-- A symbol with its place. -/
structure Token where
  /-- The symbol. -/
  symbol : Symbol
  /-- The number of characters before the symbol on its line. -/
  column : Nat
  /-- Whether the symbol is the first on its line. -/
  opensLine : Bool
deriving DecidableEq, Repr

/-- Where a tab is space. -/
inductive TabRule where
  /-- Nowhere: what follows may be indented. -/
  | never
  /-- Everywhere. -/
  | always
  /-- At columns that belong to the innermost block, behind a plain scalar. -/
  | fromMargin
deriving DecidableEq, Repr

/-- The place of a reader in a document. -/
structure Place where
  /-- The number of characters before the place on its line. -/
  column : Nat := 0
  /-- Whether the line has no symbol yet. -/
  opensLine : Bool := true
  /-- The column of the first symbol on the line. -/
  lineColumn : Nat := 0
  /-- The column from which on text belongs to the innermost block. -/
  margin : Nat := 0
  /-- The number of flow collections that are open. -/
  depth : Nat := 0
  /-- Where a tab is space. -/
  tabs : TabRule := .never
deriving DecidableEq, Repr

namespace Place

/-- Whether a flow collection is open. -/
def inFlow (place : Place) : Bool :=
  place.depth != 0

/-- Whether a tab is space at a place. -/
def allowsTab (place : Place) : Bool :=
  match place.tabs with
  | .never => place.inFlow
  | .always => true
  | .fromMargin => decide (place.margin ≤ place.column)

/-- The place behind a space or tab. -/
def afterSpace (place : Place) : Place :=
  { place with column := place.column + 1 }

/-- The place behind a line break. -/
def nextLine (place : Place) : Place :=
  { place with
    column := 0
    opensLine := true
    tabs := if place.tabs = .fromMargin then .fromMargin else .never }

/-- The place behind a comment. -/
def afterComment (place : Place) : Place :=
  { place with tabs := .always }

/-- The column behind some text. -/
def advance (column : Nat) (text : Text) : Nat :=
  text.foldl (fun column c => if isBreak c then 0 else column + 1) column

/-- The place behind a symbol that is written as `written`. -/
def afterSymbol (place : Place) (symbol : Symbol) (written : Text) : Place :=
  let lineColumn := if place.opensLine then place.column else place.lineColumn
  { column := advance place.column written
    opensLine := false
    lineColumn
    margin :=
      match symbol with
      | .documentStart | .documentEnd => 0
      | .dash => if place.inFlow then place.margin else place.column + 1
      | .colon => if place.inFlow then place.margin else lineColumn + 1
      | _ => place.margin
    depth :=
      match symbol with
      | .openSequence | .openMapping => place.depth + 1
      | .closeSequence | .closeMapping => place.depth - 1
      | _ => place.depth
    tabs :=
      match symbol with
      | .dash => .never
      | _ => .always }

end Place

/-- The symbols that are written with one character wherever they stand. -/
def bracket? : Char → Option Symbol
  | '[' => some .openSequence
  | ']' => some .closeSequence
  | '\x7b' => some .openMapping
  | '\x7d' => some .closeMapping
  | ',' => some .comma
  | _ => none

/-- The quote that a character opens a scalar with. -/
def quoteMark? : Char → Option QuoteMark
  | '\'' => some .single
  | '"' => some .double
  | _ => none

/-- The symbol at the head of a text that starts with neither space nor a comment, the place
behind it and the text that follows. -/
def symbol? (place : Place) : Text → Option (Symbol × Place × Text)
  | [] => none
  | c :: rest =>
    let reads (symbol : Symbol) (after : Text) : Option (Symbol × Place × Text) :=
      let written := (c :: rest).take ((c :: rest).length - after.length)
      some (symbol, place.afterSymbol symbol written, after)
    if place.column == 0 && startsDocument (c :: rest) then reads .documentStart (rest.drop 2)
    else if place.column == 0 && endsDocument (c :: rest) then reads .documentEnd (rest.drop 2)
    else if c == '-' && startsGap rest then reads .dash rest
    else if c == ':' && (place.inFlow || startsGap rest) then reads .colon rest
    else
      match bracket? c, quoteMark? c with
      | some symbol, _ => reads symbol rest
      | none, some mark =>
        match quotedBody mark rest with
        | some (text, after) =>
          reads (.scalar text (!(rest.take (rest.length - after.length)).any isBreak)) after
        | none => none
      | none, none =>
        if startsPlain place.inFlow (c :: rest) then
          match plain? place.inFlow c rest with
          | some (text, after) =>
            (reads (.scalar text true) after).map fun (symbol, behind, after) =>
              (symbol, { behind with tabs := .fromMargin }, after)
          | none => none
        else none

/-- What follows a symbol is shorter than the text. -/
theorem symbol?_lt {place behind : Place} {text after : Text} {symbol : Symbol}
    (h : symbol? place text = some (symbol, behind, after)) : after.length < text.length := by
  unfold symbol? at h
  split at h
  · simp at h
  · rename_i c rest
    simp only [List.length_cons]
    dsimp only at h
    split at h
    · simp only [Option.some.injEq, Prod.mk.injEq] at h
      simp only [← h.2.2, List.length_drop]
      omega
    · split at h
      · simp only [Option.some.injEq, Prod.mk.injEq] at h
        simp only [← h.2.2, List.length_drop]
        omega
      · split at h
        · simp only [Option.some.injEq, Prod.mk.injEq] at h
          simp [← h.2.2]
        · split at h
          · simp only [Option.some.injEq, Prod.mk.injEq] at h
            simp [← h.2.2]
          · split at h
            · simp only [Option.some.injEq, Prod.mk.injEq] at h
              simp [← h.2.2]
            · split at h
              · rename_i found
                simp only [Option.some.injEq, Prod.mk.injEq] at h
                have shorter := quotedBody_lt found
                rw [← h.2.2]
                omega
              · simp at h
            · split at h
              · split at h
                · rename_i found
                  simp only [Option.map_some, Option.some.injEq, Prod.mk.injEq] at h
                  have short := plain?_le found
                  rw [← h.2.2]
                  omega
                · simp at h
              · simp at h

/-- The tokens of a text that starts at a place. -/
def tokensFrom (place : Place) : Text → Option (List Token)
  | [] => some []
  | c :: rest =>
    if c == ' ' || (c == '\t' && place.allowsTab) then tokensFrom place.afterSpace rest
    else if isBreak c then tokensFrom place.nextLine rest
    else if c == '#' then tokensFrom place.afterComment (rest.dropWhile (!isBreak ·))
    else
      match _read : symbol? place (c :: rest) with
      | some (symbol, behind, after) =>
        (tokensFrom behind after).map (⟨symbol, place.column, place.opensLine⟩ :: ·)
      | none => none
termination_by text => text.length
decreasing_by
  · simp
  · simp
  · have short := (List.dropWhile_sublist (!isBreak ·) (l := rest)).length_le
    simp only [List.length_cons]
    omega
  · exact symbol?_lt _read

/-- Whether a document may hold a character. -/
def isPermitted (c : Char) : Bool :=
  inRanges [(0x09, 0x0A), (0x0D, 0x0D), (0x20, 0x7E), (0x85, 0x85), (0xA0, 0xD7FF),
    (0xE000, 0xFFFD), (0x10000, 0x10FFFF)] c.toNat

/-- The tokens of a document. A byte order mark at its start is space. -/
def tokens (text : Text) : Option (List Token) :=
  if text.all isPermitted then
    match text with
    | '\uFEFF' :: rest => tokensFrom (Place.afterSpace {}) rest
    | _ => tokensFrom {} text
  else none

end QuotedText.Yaml
