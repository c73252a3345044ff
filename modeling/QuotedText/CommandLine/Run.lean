import QuotedText.CommandLine.Invocation
import QuotedText.CommandLine.Report
import QuotedText.Quote.Rewrite
import QuotedText.Quote.StyleDocument
import QuotedText.Sql.Statement
import QuotedText.Sql.Value
import QuotedText.Text.ByteBudget

/-!
# Running a command

A run takes an invocation and what it can read, and ends with an exit code and what is printed. A
command first reads the style document, then its input, then looks at its needle or token; the
first of these that fails is what the run reports. Commands that have no quote style never look
at the style document. How a document is decoded, how a path is shown and what else is said about
the cause of a failure is left to packages; `Packages.standard` are those that run.
-/

namespace QuotedText.CommandLine

/-- What a command can read. -/
structure Sources (Path : Type) where
  /-- The standard input, if it is UTF-8. -/
  standardInput : Option Text
  /-- The content of the file at a path, if there is one and it is UTF-8. -/
  file? : Path → Option Text

/-- The exit codes. -/
inductive ExitCode where
  /-- The command did its work; a search found something. -/
  | success
  /-- A search found nothing. -/
  | notFound
  /-- The command could not start its work. -/
  | failure
  /-- The text is not SQL. -/
  | lexError
deriving DecidableEq, Repr

namespace ExitCode

/-- The number of an exit code. -/
def toNat : ExitCode → Nat
  | success => 0
  | notFound => 1
  | failure => 2
  | lexError => 3

end ExitCode

/-- Why a command does not do its work. -/
inductive Failure (Path : Type) where
  | configUnreadable (path : Path)
  | configInvalid (path : Path)
  | inputUnreadable (path : Path)
  | standardInputUnreadable
  | scan (error : ScanError)
  | lex (error : Sql.LexError)
deriving DecidableEq, Repr

/-- What a run leaves to packages and to the system. -/
structure Packages (Path : Type) where
  /-- How settings documents are decoded. -/
  decoder : Yaml.Decoder
  /-- How a path is shown. -/
  shown : Path → Text
  /-- The lines that say more about the cause of a failure. -/
  causes : Failure Path → List Text

namespace Packages

/-- The packages of the program that runs. It shows no causes. -/
def standard : Packages Text where
  decoder := .standard
  shown path := path
  causes _ := []

end Packages

namespace Failure

variable {Path : Type}

/-- The line that reports a failure. -/
def line (shown : Path → Text) : Failure Path → Text
  | configUnreadable path => "fatal: failed to read scan config: ".toList ++ shown path
  | configInvalid path => "fatal: invalid scan config: ".toList ++ shown path
  | inputUnreadable path => "fatal: failed to read input: ".toList ++ shown path
  | standardInputUnreadable => "fatal: failed to read stdin".toList
  | scan error => "fatal: ".toList ++ error.message.toList
  | lex error => "error: ".toList ++ error.message.toList

/-- The lines that report a failure. An open literal has no cause. -/
def report (packages : Packages Path) (failure : Failure Path) : List Text :=
  match failure with
  | lex _ => [failure.line packages.shown]
  | configUnreadable _ | configInvalid _ | inputUnreadable _ | standardInputUnreadable
  | scan _ => failure.line packages.shown :: packages.causes failure

/-- The exit code of a failure. -/
def exitCode : Failure Path → ExitCode
  | lex _ => .lexError
  | configUnreadable _ | configInvalid _ | inputUnreadable _ | standardInputUnreadable
  | scan _ => .failure

end Failure

/-- The end of a run. -/
structure Outcome where
  /-- The exit code. -/
  exitCode : ExitCode
  /-- What is printed. -/
  stdout : Text
  /-- What is reported, if the command does not do its work. -/
  stderr : Text
deriving DecidableEq, Repr

/-- A text without one line break at its end. -/
def withoutFinalBreak (text : Text) : Text :=
  match text.reverse with
  | '\n' :: '\r' :: rest => rest.reverse
  | '\n' :: rest => rest.reverse
  | _ => text

namespace Sources

variable {Path : Type}

/-- The text of a command. The line break that ends the standard input does not count. -/
def input (sources : Sources Path) (source : InputSource Path) : Except (Failure Path) Text :=
  match source.text?, source.file? with
  | some text, _ => .ok text
  | none, some path =>
    match sources.file? path with
    | some text => .ok text
    | none => .error (.inputUnreadable path)
  | none, none =>
    match sources.standardInput with
    | some text => .ok (withoutFinalBreak text)
    | none => .error .standardInputUnreadable

/-- The quote style that a document spells out, or the default style, after changes. -/
def style (sources : Sources Path) (decoder : Yaml.Decoder) (config? : Option Path)
    (changes : StyleChanges) : Except (Failure Path) QuoteStyle :=
  match config? with
  | none => .ok (changes.apply {})
  | some path =>
    match sources.file? path with
    | none => .error (.configUnreadable path)
    | some document =>
      match QuoteStyle.decoded decoder document with
      | .ok style => .ok (changes.apply style)
      | .error _ => .error (.configInvalid path)

end Sources

/-- The version of the program. -/
def version : Text := "0.4.0".toList

/-- The name under which the program prints its version. -/
def programName : Text := "quotescan".toList

/-- A rewrite as a function on text. -/
def Rewrite.apply : Rewrite → Text → Text
  | .flatten => Text.flatten
  | .upper => Text.upper
  | .lower => Text.lower

/-- What `contains` prints. -/
def truth (found : Bool) : Text :=
  if found then "true".toList else "false".toList

/-- The statements that `sql-split` prints; as lines they are trimmed. -/
def statementsReport (format : Format) (statements : List Text) : Text :=
  match format with
  | .text => piecesReport .text (statements.map Text.trim)
  | .json => piecesReport .json statements

namespace Invocation

variable {Path : Type}

/-- The work of an invocation: its exit code and what it prints, or why there is neither. -/
def perform (decoder : Yaml.Decoder) (sources : Sources Path) (invocation : Invocation Path) :
    Except (Failure Path) (ExitCode × Text) :=
  match invocation.command with
  | .contains needle input changes quiet => do
    let style ← sources.style decoder invocation.config? changes
    let text ← sources.input input
    let found ← (style.contains needle text).mapError .scan
    return (if found then .success else .notFound, if quiet then [] else lines [truth found])
  | .split token input changes options format => do
    let style ← sources.style decoder invocation.config? changes
    let text ← sources.input input
    let pieces ← (style.split token options text).mapError .scan
    return (.success, piecesReport format pieces)
  | .sqlSplit input format => do
    let text ← sources.input input
    return (.success, statementsReport format (Sql.statements text))
  | .lex input format => do
    let text ← sources.input input
    let tokens ← (Sql.tokens text).mapError .lex
    return (.success, tokensReport format tokens)
  | .truncate input skipped budget => do
    let text ← sources.input input
    return (.success, lines [text.truncateFrom skipped budget])
  | .unquoted input changes rewrite => do
    let style ← sources.style decoder invocation.config? changes
    let text ← sources.input input
    return (.success, lines [style.rewriteUnquoted rewrite.apply text])
  | .spans input changes format => do
    let style ← sources.style decoder invocation.config? changes
    let text ← sources.input input
    return (.success, spansReport format (style.locatedSpans text))
  | .backtick input => do
    let text ← sources.input input
    return (.success, lines [Sql.backtickEscapes text])
  | .version => return (.success, lines [version])

/-- The outcome of an invocation, given the packages. -/
def runWith (packages : Packages Path) (sources : Sources Path) (invocation : Invocation Path) :
    Outcome :=
  match invocation.perform packages.decoder sources with
  | .ok (exitCode, printed) => { exitCode, stdout := printed, stderr := [] }
  | .error failure =>
    { exitCode := failure.exitCode, stdout := [], stderr := lines (failure.report packages) }

/-- The outcome of an invocation. -/
def run (sources : Sources Text) (invocation : Invocation Text) : Outcome :=
  invocation.runWith .standard sources

/-- The paths of the files that an invocation reads. -/
def paths (invocation : Invocation Path) : List Path :=
  let ofConfig := invocation.config?.toList
  let ofInput (input : InputSource Path) : List Path :=
    if input.text?.isSome then [] else input.file?.toList
  match invocation.command with
  | .contains _ input _ _ | .split _ input _ _ _ | .unquoted input _ _ | .spans input _ _ =>
    ofConfig ++ ofInput input
  | .sqlSplit input _ | .lex input _ | .truncate input _ _ | .backtick input => ofInput input
  | .version => []

/-- Whether an invocation reads the standard input. -/
def readsStandardInput (invocation : Invocation Path) : Bool :=
  match invocation.command with
  | .contains _ input _ _ | .split _ input _ _ _ | .unquoted input _ _ | .spans input _ _
  | .sqlSplit input _ | .lex input _ | .truncate input _ _ | .backtick input =>
    input.text?.isNone && input.file?.isNone
  | .version => false

end Invocation

end QuotedText.CommandLine
