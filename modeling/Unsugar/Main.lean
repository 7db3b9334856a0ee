import Unsugar.Program.Run

/-!
# The program
-/

namespace Unsugar

/-- A failure of the system in its own words, as far as it has a number there. -/
def systemWords : IO.Error → String
  | .noFileOrDirectory _ code details | .permissionDenied _ code details
  | .inappropriateType _ code details | .invalidArgument _ code details
  | .resourceExhausted _ code details | .resourceBusy code details
  | .resourceVanished code details | .hardwareFault code details
  | .unsupportedOperation code details | .otherError code details =>
      s!"{details} (os error {code})"
  | e => toString e

/-- Runs an action for its effect; returns why it failed. -/
def attempt (act : IO Unit) : IO (Option String) := do
  try
    act
    return none
  catch e => return some (systemWords e)

/-- The operations on the real system, where no log is kept. -/
def systemHost : Host IO where
  openLog _ := return ()
  readInput := do
    let bytes ← (← IO.getStdin).readBinToEnd
    return String.fromUTF8? bytes
  readFile path := do
    try
      return String.fromUTF8? (← IO.FS.readBinFile path)
    catch _ => return none
  writeFile path text := attempt do
    let out ← IO.FS.Handle.mk path .write
    out.putStr text
    out.flush
  writeOutput text := attempt do
    let out ← IO.getStdout
    out.putStr text
    out.flush
  report text := IO.eprint text
  clock := IO.monoNanosNow

def usage : String :=
  "Desugar aggregate literals and field access into orddict calls

Usage: mapsugar [OPTIONS] <COMMAND>

Commands:
  rewrite  Rewrite a unit of forms
  dump     Pretty print a unit of forms without rewriting
  explain  Explain what would be done
  help     Print this message

Options of all commands:
  -S, --statistics         Print phase timings to stderr before exiting
  -v, --verbose            Enable verbose logging (repeat for more)
  -q, --quiet              Only log errors
      --log-level <LEVEL>  Set log level (overrides --verbose / --quiet)
  -h, --help               Print help
  -V, --version            Print version

Options of rewrite and explain:
  -o, --output <FILE>      Output file (default stdout)
  -x, --export <FORMAT>    Format to write output in (json or pretty)

Each command takes the forms to read, as JSON, from a file (`-` or absent for stdin).
"

open CommandLine in
/-- What is wrong with a command line, in words. -/
def usageProblem : UsageError → String
  | .missingSubcommand => "a subcommand is required but one was not provided"
  | .invalidSubcommand => "unrecognized subcommand"
  | .unknownArgument => "unexpected argument found"
  | .invalidValue => "invalid or missing value for an option"
  | .tooManyValues => "unexpected value for a flag"
  | .argumentConflict => "an option cannot be used multiple times"
  | .help | .version | .helpForEmptyLine => ""

end Unsugar

open Unsugar in
def main (args : List String) : IO UInt32 := do
  match CommandLine.parse args with
  | .ok options => Run.run systemHost options
  | .error e =>
      match e with
      | .help => IO.print usage
      | .version => IO.print CommandLine.versionText
      | .helpForEmptyLine => IO.eprint usage
      | e => IO.eprintln s!"error: {usageProblem e}"
      return e.exitCode
