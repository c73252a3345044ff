import QuotedText.CommandLine.Reading
import QuotedText.Quote.Split

/-!
# Invocations

An invocation is a command with everything it needs to know: where its input comes from, which
quote style is asked for, how the result is laid out. What a path is does not matter to it; the
system may know files by names that are no text. Arguments that are text make up an invocation
whose paths are text, and the path of its style document comes from the switch behind the command,
else from the switch before it, else from the environment (`Invocation.ofArguments`).
-/

namespace QuotedText.CommandLine

/-- Where the text of a command comes from: an operand, else a file, else the standard input. -/
structure InputSource (Path : Type) where
  /-- The text, if an operand holds it. -/
  text? : Option Text := none
  /-- The file that is named, if there is one. -/
  file? : Option Path := none
deriving DecidableEq, Repr

namespace InputSource

variable {Path : Type}

/-- The text is an operand. -/
def operand (text : Text) : InputSource Path :=
  { text? := some text }

/-- The text is the content of a file. -/
def file (path : Path) : InputSource Path :=
  { file? := some path }

/-- The text is what the standard input holds. -/
def standardInput : InputSource Path :=
  {}

end InputSource

/-- What switches change about the quote style. -/
structure StyleChanges where
  /-- Quotes in place of those of the style, unless there are none. -/
  quotes : List Char := []
  /-- Whether case is significant whatever the style says. -/
  caseSensitive : Bool := false
  /-- Whether a repeated quote closes its region whatever the style says. -/
  noEscape : Bool := false
deriving DecidableEq, Repr

namespace StyleChanges

/-- A style after the changes. -/
def apply (changes : StyleChanges) (style : QuoteStyle) : QuoteStyle :=
  { quotes := if changes.quotes = [] then style.quotes else changes.quotes
    letterCase := if changes.caseSensitive then .sensitive else style.letterCase
    escape := if changes.noEscape then .none else style.escape }

end StyleChanges

/-- A command and what it works with. -/
inductive Command (Path : Type) where
  | contains (needle : Text) (input : InputSource Path) (changes : StyleChanges) (quiet : Bool)
  | split (token : Text) (input : InputSource Path) (changes : StyleChanges)
      (options : SplitOptions) (format : Format)
  | sqlSplit (input : InputSource Path) (format : Format)
  | lex (input : InputSource Path) (format : Format)
  | truncate (input : InputSource Path) (skipped budget : Nat)
  | unquoted (input : InputSource Path) (changes : StyleChanges) (rewrite : Rewrite)
  | spans (input : InputSource Path) (changes : StyleChanges) (format : Format)
  | backtick (input : InputSource Path)
  | version
deriving DecidableEq, Repr

/-- A command and the path of the style document, if there is one. -/
structure Invocation (Path : Type) where
  config? : Option Path
  command : Command Path
deriving DecidableEq, Repr

namespace Arguments

/-- The source of the input, given the operands behind those the command needs. A text and a file
exclude each other. -/
def inputSource? (arguments : Arguments) (operands : List Text) : Option (InputSource Text) :=
  if operands ≠ [] ∧ arguments.file?.isSome then none
  else some { text? := operands.head?, file? := arguments.file? }

/-- What the arguments change about the quote style. -/
def styleChanges (arguments : Arguments) : StyleChanges :=
  { quotes := arguments.quotes
    caseSensitive := arguments.caseSensitive
    noEscape := arguments.noEscape }

/-- How the arguments ask to split. -/
def splitOptions (arguments : Arguments) : SplitOptions :=
  { includeToken := arguments.includeToken
    trimmed := !arguments.noTrim
    tokenCase := if arguments.tokenCaseSensitive then .sensitive else .insensitive }

/-- The layout the arguments ask for. -/
def format (arguments : Arguments) : Format :=
  arguments.format?.getD .text

/-- The command that arguments make up, unless something it needs is missing. -/
def command? (arguments : Arguments) (name : CommandName) : Option (Command Text) :=
  match name, arguments.operands with
  | .contains, needle :: operands =>
    (arguments.inputSource? operands).map fun input =>
      .contains needle input arguments.styleChanges arguments.quiet
  | .split, token :: operands =>
    (arguments.inputSource? operands).map fun input =>
      .split token input arguments.styleChanges arguments.splitOptions arguments.format
  | .contains, [] | .split, [] => none
  | .sqlSplit, operands => (arguments.inputSource? operands).map (.sqlSplit · arguments.format)
  | .lex, operands => (arguments.inputSource? operands).map (.lex · arguments.format)
  | .truncate, operands =>
    match arguments.inputSource? operands, arguments.bytes? with
    | some input, some budget => some (.truncate input (arguments.fromChar?.getD 0) budget)
    | _, _ => none
  | .unquoted, operands =>
    (arguments.inputSource? operands).map
      (.unquoted · arguments.styleChanges (arguments.rewrite?.getD .flatten))
  | .spans, operands =>
    (arguments.inputSource? operands).map (.spans · arguments.styleChanges arguments.format)
  | .backtick, operands => (arguments.inputSource? operands).map .backtick
  | .version, _ => some .version

end Arguments

namespace Invocation

/-- The path of the style document. The variable counts at every level at which no switch gives a
path, and where it counts it is not empty. -/
def configPath (outer inner configured? : Option Text) : Except Stop (Option Text) :=
  match inner, outer with
  | some inner, some _ => .ok (some inner)
  | _, _ =>
    if configured? = some [] then .error .usage
    else .ok (inner.or (outer.or configured?))

/-- Whether help can be asked for on the words behind `help`. -/
def isHelpTopic : List Text → Bool
  | [] => true
  | [topic] => topic == "help".toList || (CommandName.ofText? topic).isSome
  | _ => false

/-- The invocation that arguments make up; `configured?` is the path that the environment gives for
the style document. -/
def ofArguments (configured? : Option Text) (arguments : List Text) :
    Except Stop (Invocation Text) := do
  let (outer, rest) ← readArguments .root {} arguments
  match rest with
  | [] => .error .usage
  | word :: more =>
    if word = "help".toList then .error (if isHelpTopic more then .help else .usage)
    else
      let name ← orUsage (CommandName.ofText? word)
      let (inner, _) ← readArguments (.command name) {} more
      let config? ← configPath outer.config? inner.config? configured?
      let command ← orUsage (inner.command? name)
      return { config?, command }

end Invocation

end QuotedText.CommandLine
