import ApiReference.Command.Run

/-!
# The command line

Everything that the command does is decided elsewhere. This module reads what the source holds,
writes the log and the error to the standard error output and the result to the standard output, and
ends with the exit code.
-/

namespace ApiReference.Command

/-- The help that the command shows. -/
def helpLines : List String := [
  "Generate type declarations from an HTML API reference page",
  "",
  "Usage: apigen [OPTIONS] [INPUT]",
  "",
  "Arguments:",
  "  [INPUT]  Local HTML file, or \"-\" for stdin; the page is fetched when it is missing",
  "",
  "Options:",
  "  -u, --url <URL>            Page to fetch when no input is given",
  "  -d, --dialect <DIALECT>    Output dialect: struct, message or json",
  "  -p, --package <PACKAGE>    Package name for struct output",
  "  -w, --width <WIDTH>        Column at which comments are wrapped",
  "      --start-at <START_AT>  Ignore every definition before the first heading with this title",
  "      --skip-functions       Emit type definitions only",
  "      --opaque <TYPE>        Extra type name to treat as opaque (repeatable)",
  "  -v, --verbose...           Increase log verbosity (-v info, -vv debug, -vvv trace)",
  "  -h, --help                 Print help"]

/-- The rest of a stream. -/
partial def readAll (stream : IO.FS.Stream) (content : ByteArray) : IO ByteArray := do
  let bytes ← stream.read 65536
  if bytes.isEmpty then return content else readAll stream (content ++ bytes)

/-- The content of a source, if it can be read. No page can be fetched from here. -/
def readSource : Source → IO (Option ByteArray)
  | .url _ => return none
  | .file path => do
    try
      return some (← IO.FS.readBinFile (String.ofList path))
    catch _ =>
      return none
  | .standardInput => do
    try
      return some (← readAll (← IO.getStdin) .empty)
    catch _ =>
      return none

/-- What comes of a run with some arguments. -/
def runIO (arguments : List Text) : IO Outcome := do
  match Options.parse arguments with
  | .error stop => return .stopped stop
  | .ok options =>
    match options.source with
    | .error failure => return .failed failure []
    | .ok source => return options.process source (← readSource source)

/-- Shows what came of a run. -/
def report (outcome : Outcome) : IO Unit := do
  for line in outcome.logLines do
    IO.eprintln (String.ofList line)
  match outcome with
  | .stopped .usage => IO.eprintln "error: unexpected arguments\n\nFor more information, try '--help'."
  | .stopped .help => helpLines.forM IO.println
  | .failed failure _ => IO.eprintln ("Error: " ++ String.ofList failure.message)
  | .done output _ => IO.print (String.ofList output)

end ApiReference.Command

/-- The command. -/
def main (arguments : List String) : IO UInt32 := do
  let outcome ← ApiReference.Command.runIO (arguments.map String.toList)
  ApiReference.Command.report outcome
  return UInt32.ofNat outcome.exitCode
