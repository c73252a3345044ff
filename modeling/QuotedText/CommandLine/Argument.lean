import QuotedText.CommandLine.Switch

/-!
# Arguments and their values

`Arguments` gathers what the arguments of a command have said so far. A value is read by the kind
of its switch, and what does not read as one is refused. A switch is given once, `--quote` as
often as one likes.
-/

namespace QuotedText.CommandLine

/-- What arguments have said so far. -/
structure Arguments where
  config? : Option Text := none
  file? : Option Text := none
  quotes : List Char := []
  caseSensitive : Bool := false
  noEscape : Bool := false
  quiet : Bool := false
  includeToken : Bool := false
  noTrim : Bool := false
  tokenCaseSensitive : Bool := false
  format? : Option Format := none
  rewrite? : Option Rewrite := none
  bytes? : Option Nat := none
  fromChar? : Option Nat := none
  operands : List Text := []
deriving DecidableEq, Repr

/-- The greatest number that an argument can give, which fills 64 bits. -/
def greatestNumber : Nat := 18446744073709551615

/-- The number that a text writes in decimal digits, with or without a plus sign. -/
def readNumber? (text : Text) : Option Nat :=
  let digits := match text with
    | '+' :: digits => digits
    | digits => digits
  if digits ≠ [] ∧ digits.all Char.isDigit then
    let value := digits.foldl (fun value digit => 10 * value + (digit.toNat - '0'.toNat)) 0
    if value ≤ greatestNumber then some value else none
  else none

/-- A path is not empty. -/
def readPath? (text : Text) : Option Text :=
  if text = [] then none else some text

/-- The one character of a text that has one. -/
def readChar? : Text → Option Char
  | [c] => some c
  | _ => none

/-- The layout that a text names. -/
def readFormat? (text : Text) : Option Format :=
  if text = "text".toList then some .text
  else if text = "json".toList then some .json
  else none

/-- The rewrite that a text names. -/
def readRewrite? (text : Text) : Option Rewrite :=
  if text = "flatten".toList then some .flatten
  else if text = "upper".toList then some .upper
  else if text = "lower".toList then some .lower
  else none

/-- A value for what has none so far. -/
def once {α : Type} (current : Option α) (value : Option α) : Option (Option α) :=
  match current with
  | some _ => none
  | none => value.map some

namespace Arguments

/-- Takes up the value of a switch, unless the switch takes another kind of value or none, or has
a value already. -/
def setValue? (arguments : Arguments) (switch : Switch) (value : Text) : Option Arguments :=
  match switch with
  | .config =>
    (once arguments.config? (readPath? value)).map fun config? => { arguments with config? }
  | .file => (once arguments.file? (readPath? value)).map fun file? => { arguments with file? }
  | .quote =>
    (readChar? value).map fun quote => { arguments with quotes := arguments.quotes ++ [quote] }
  | .format =>
    (once arguments.format? (readFormat? value)).map fun format? => { arguments with format? }
  | .op =>
    (once arguments.rewrite? (readRewrite? value)).map fun rewrite? => { arguments with rewrite? }
  | .bytes =>
    (once arguments.bytes? (readNumber? value)).map fun bytes? => { arguments with bytes? }
  | .fromChar =>
    (once arguments.fromChar? (readNumber? value)).map fun fromChar? =>
      { arguments with fromChar? }
  | .caseSensitive | .noEscape | .quiet | .includeToken | .noTrim | .tokenCaseSensitive => none

/-- Turns a switch on, unless it takes a value or is on already. -/
def turnOn? (arguments : Arguments) : Switch → Option Arguments
  | .caseSensitive =>
    if arguments.caseSensitive then none else some { arguments with caseSensitive := true }
  | .noEscape => if arguments.noEscape then none else some { arguments with noEscape := true }
  | .quiet => if arguments.quiet then none else some { arguments with quiet := true }
  | .includeToken =>
    if arguments.includeToken then none else some { arguments with includeToken := true }
  | .noTrim => if arguments.noTrim then none else some { arguments with noTrim := true }
  | .tokenCaseSensitive =>
    if arguments.tokenCaseSensitive then none
    else some { arguments with tokenCaseSensitive := true }
  | .config | .file | .quote | .format | .op | .bytes | .fromChar => none

end Arguments

end QuotedText.CommandLine
