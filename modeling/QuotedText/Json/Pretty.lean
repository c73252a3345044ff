import QuotedText.Text.Basic

/-!
# Values in JSON

The command line reports in JSON of one layout: two spaces for each level, a value on each line
and nothing between the brackets of an empty array. In a string only quotes, backslashes and
control characters are escaped.
-/

namespace QuotedText

/-- The values that are reported. -/
inductive JsonValue where
  | number (value : Nat)
  | string (text : Text)
  | array (items : List JsonValue)
  | object (fields : List (Text × JsonValue))

namespace JsonValue

/-- A hexadecimal digit in lower case. -/
def hexDigit (value : Nat) : Char :=
  (Nat.toDigits 16 value).headD '0'

/-- A character as it is written in a string. -/
def escapeChar (c : Char) : Text :=
  if c == '"' then ['\\', '"']
  else if c == '\\' then ['\\', '\\']
  else if c == '\x08' then ['\\', 'b']
  else if c == '\x0c' then ['\\', 'f']
  else if c == '\n' then ['\\', 'n']
  else if c == '\r' then ['\\', 'r']
  else if c == '\t' then ['\\', 't']
  else if c.toNat < 0x20 then
    ['\\', 'u', '0', '0', hexDigit (c.toNat / 16), hexDigit (c.toNat % 16)]
  else [c]

/-- A text between quotes. -/
def quoted (text : Text) : Text :=
  '"' :: text.flatMap escapeChar ++ ['"']

/-- The beginning of a line at a level. -/
def newLine (level : Nat) : Text :=
  '\n' :: List.replicate (2 * level) ' '

/-- Members between brackets, each on a line of its own. -/
def bracketed (level : Nat) (opening closing : Char) (members : List Text) : Text :=
  if members.isEmpty then [opening, closing]
  else
    let lines := members.map (newLine (level + 1) ++ ·)
    opening :: [','].intercalate lines ++ newLine level ++ [closing]

mutual

/-- A value as it is written at a level. -/
def pretty (level : Nat) : JsonValue → Text
  | number value => Nat.toDigits 10 value
  | string text => quoted text
  | array items => bracketed level '[' ']' (prettyItems (level + 1) items)
  | object fields => bracketed level '\x7b' '\x7d' (prettyFields (level + 1) fields)

/-- The items of an array. -/
def prettyItems (level : Nat) : List JsonValue → List Text
  | [] => []
  | item :: more => pretty level item :: prettyItems level more

/-- The fields of an object, each with its name. -/
def prettyFields (level : Nat) : List (Text × JsonValue) → List Text
  | [] => []
  | (name, value) :: more =>
    (quoted name ++ [':', ' '] ++ pretty level value) :: prettyFields level more

end

end JsonValue

end QuotedText
