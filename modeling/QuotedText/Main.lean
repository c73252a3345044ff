import QuotedText.CommandLine.Run

/-!
# The program

Reads what the invocation needs, runs it and prints its outcome. This is the only module that
touches files and streams.
-/

namespace QuotedText.CommandLine

/-- What is printed for help and for wrong arguments. -/
def usageLines : List Text :=
  ["usage: quotescan [--config PATH] COMMAND [ARGUMENTS]".toList,
    "commands: ".toList ++ [',', ' '].intercalate (CommandName.all.map CommandName.written)]

/-- The content of a file, if there is one and it is UTF-8. -/
def readText? (path : Text) : IO (Option Text) := do
  try
    let bytes ← IO.FS.readBinFile (String.ofList path)
    return (String.fromUTF8? bytes).map String.toList
  catch _ => return none

/-- Everything that the standard input holds, if it is UTF-8. -/
def readStandardInput? : IO (Option Text) := do
  try
    let bytes ← (← IO.getStdin).readBinToEnd
    return (String.fromUTF8? bytes).map String.toList
  catch _ => return none

/-- Prints a text to a stream as it is. -/
def write (stream : IO.FS.Stream) (text : Text) : IO Unit := do
  stream.putStr (String.ofList text)
  stream.flush

/-- Reads the sources of an invocation and runs it. -/
def execute (invocation : Invocation Text) : IO UInt32 := do
  let contents ← invocation.paths.mapM fun path => return (path, ← readText? path)
  let standardInput ←
    if invocation.readsStandardInput then readStandardInput? else pure none
  let sources : Sources Text := { standardInput, file? := fun path => (contents.lookup path).join }
  let outcome := invocation.run sources
  write (← IO.getStdout) outcome.stdout
  write (← IO.getStderr) outcome.stderr
  return UInt32.ofNat outcome.exitCode.toNat

end QuotedText.CommandLine

open QuotedText QuotedText.CommandLine in
/-- Runs the command that the arguments make up. -/
def main (arguments : List String) : IO UInt32 := do
  let configured? ← IO.getEnv "QUOTESCAN_CONFIG"
  match Invocation.ofArguments (configured?.map String.toList) (arguments.map String.toList) with
  | .ok invocation => execute invocation
  | .error .usage =>
    write (← IO.getStderr) (lines usageLines)
    return UInt32.ofNat ExitCode.failure.toNat
  | .error .help =>
    write (← IO.getStdout) (lines usageLines)
    return UInt32.ofNat ExitCode.success.toNat
  | .error .version =>
    write (← IO.getStdout) (lines [programName ++ [' '] ++ version])
    return UInt32.ofNat ExitCode.success.toNat
