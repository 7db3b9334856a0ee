import Unsugar.Program.Options

/-!
# The command line

A command line holds global options, a subcommand, and the subcommand's options and file. Global
options may stand on both sides of the subcommand; where one stands on both, the right side counts.

Arguments are taken from left to right. A value option whose value is the next argument is only applied
once another argument needs the line to be settled, so a fault in its value can be overtaken by an
argument that is not known at all.
-/

namespace Unsugar.CommandLine

/-- Why a command line starts no run. Asking for help or for the version is no mistake. -/
inductive UsageError where
  | help
  | version
  /-- Nothing at all was asked for. -/
  | helpForEmptyLine
  | missingSubcommand
  | invalidSubcommand
  | unknownArgument
  | invalidValue
  | tooManyValues
  | argumentConflict
deriving DecidableEq, Repr

def UsageError.exitCode : UsageError → UInt32
  | help | version => 0
  | _ => 2

/-- The answer to the question for the version. -/
def versionText : String := s!"{toolName} 0.1.0\n"

/-! ## What can be written -/

/-- The parts of the command line, each with arguments of its own: what stands before the subcommand,
and the three subcommands that do something. -/
inductive Level where
  | top | desugar | dump | explain
deriving DecidableEq, Repr

inductive Flag where
  | statistics | verbose | quiet | help | version
deriving DecidableEq, Repr

/-- An option with a value. -/
inductive Setting where
  | logLevel | output | exportType
deriving DecidableEq, Repr

inductive Arg where
  | flag (flag : Flag)
  | setting (setting : Setting)
deriving DecidableEq, Repr

def hasOutput : Level → Bool
  | .desugar | .explain => true
  | .top | .dump => false

/-- The argument of a long name. -/
def Level.long? (level : Level) (name : String) : Option Arg :=
  match name with
  | "statistics" => some (.flag .statistics)
  | "verbose" => some (.flag .verbose)
  | "quiet" => some (.flag .quiet)
  | "help" => some (.flag .help)
  | "version" => if level = .top then some (.flag .version) else none
  | "log-level" => some (.setting .logLevel)
  | "output" => if hasOutput level then some (.setting .output) else none
  | "export" => if hasOutput level then some (.setting .exportType) else none
  | _ => none

/-- The argument of a letter. -/
def Level.short? (level : Level) (letter : Char) : Option Arg :=
  match letter with
  | 'S' => some (.flag .statistics)
  | 'v' => some (.flag .verbose)
  | 'q' => some (.flag .quiet)
  | 'h' => some (.flag .help)
  | 'V' => if level = .top then some (.flag .version) else none
  | 'o' => if hasOutput level then some (.setting .output) else none
  | 'x' => if hasOutput level then some (.setting .exportType) else none
  | _ => none

inductive Subcommand where
  | run (level : Level)
  | help
deriving DecidableEq, Repr

def subcommand? : String → Option Subcommand
  | "rewrite" => some (.run .desugar)
  | "dump" => some (.run .dump)
  | "explain" => some (.run .explain)
  | "help" => some .help
  | _ => none

/-! ## What has been read -/

/-- An option with a value whose value stands in an argument of its own. -/
inductive Pending where
  | none
  | awaiting (setting : Setting)
  | holding (setting : Setting) (value : String)
deriving DecidableEq, Repr

/-- What a level has been given so far. -/
structure Given where
  statistics : Bool
  verbose : Nat
  quiet : Bool
  logLevel : Option LogLevel
  output : Option String
  exportType : Option String
  file : Option String
  pending : Pending
  /-- Whether `--` was read, after which nothing is an option. -/
  trailing : Bool
deriving DecidableEq, Repr

namespace Given

def empty : Given := ⟨false, 0, false, none, none, none, none, .none, false⟩

/-- Whether nothing was given. -/
def isEmpty (g : Given) : Bool :=
  !g.statistics && g.verbose = 0 && !g.quiet && g.logLevel.isNone && g.output.isNone
    && g.exportType.isNone && g.file.isNone

/-- The outcome of reading arguments. -/
abbrev Result := Except UsageError

/-- Sets an option, which only once may be done. A path must not be empty. -/
def set (g : Given) (setting : Setting) (value : String) : Result Given :=
  match setting with
  | .logLevel =>
      if g.logLevel.isSome then .error .argumentConflict
      else match LogLevel.ofName? value with
        | some level => .ok { g with logLevel := some level }
        | none => .error .invalidValue
  | .output =>
      if g.output.isSome then .error .argumentConflict
      else if value = "" then .error .invalidValue
      else .ok { g with output := some value }
  | .exportType =>
      if g.exportType.isSome then .error .argumentConflict
      else .ok { g with exportType := some value }

/-- Applies the option that waits to be applied. -/
def settle (g : Given) : Result Given :=
  match g.pending with
  | .none => .ok g
  | .awaiting _ => .error .invalidValue
  | .holding setting value => { g with pending := .none }.set setting value

/-- Raises a flag. Only verbosity may be raised more than once; it is counted in a byte. -/
def raise (g : Given) (flag : Flag) : Result Given := do
  let g ← g.settle
  match flag with
  | .statistics =>
      if g.statistics then .error .argumentConflict else .ok { g with statistics := true }
  | .quiet => if g.quiet then .error .argumentConflict else .ok { g with quiet := true }
  | .verbose => .ok { g with verbose := min (g.verbose + 1) 255 }
  | .help => .error .help
  | .version => .error .version

/-- An option with its value, or with the value still to come. -/
def assign (g : Given) (setting : Setting) (value : Option String) : Result Given := do
  let g ← g.settle
  match value with
  | some value => g.set setting value
  | none => .ok { g with pending := .awaiting setting }

/-- A long argument `name` or `name=value`. -/
def long (level : Level) (g : Given) (name : String) (value : Option String) : Result Given :=
  match level.long? name with
  | none => .error .unknownArgument
  | some (.setting setting) => g.assign setting value
  | some (.flag flag) => if value.isSome then .error .tooManyValues else g.raise flag

/-- The letters after a dash: flags, and perhaps one option that takes the rest as its value. -/
def letters (level : Level) (g : Given) : List Char → Result Given
  | [] => .ok g
  | c :: rest =>
      match level.short? c with
      | none => .error .unknownArgument
      | some (.flag flag) => do letters level (← g.raise flag) rest
      | some (.setting setting) =>
          let value := match rest with
            | [] => none
            | '=' :: value => some (String.ofList value)
            | value => some (String.ofList value)
          g.assign setting value

/-- An argument that is no option. Before the subcommand only a subcommand can stand here; after it,
one file. -/
def positional (level : Level) (g : Given) (arg : String) : Result Given :=
  match level with
  | .top =>
      if g.trailing ∧ (subcommand? arg).isSome then .error .unknownArgument
      else .error .invalidSubcommand
  | _ =>
      if g.file.isSome then .error .unknownArgument
      else do
        let g ← g.settle
        .ok { g with file := some arg }

/-- One argument that is no subcommand and does not stand after `--`. -/
def argument (level : Level) (g : Given) (arg : String) : Result Given :=
  match arg.toList with
  | ['-', '-'] => .ok { g with trailing := true }
  | '-' :: '-' :: rest =>
      let name := rest.takeWhile (· ≠ '=')
      let value := match rest.dropWhile (· ≠ '=') with
        | [] => none
        | _ :: value => some (String.ofList value)
      g.long level (String.ofList name) value
  | '-' :: c :: rest => g.letters level (c :: rest)
  | _ =>
      match g.pending with
      | .awaiting setting => .ok { g with pending := .holding setting arg }
      | _ => g.positional level arg

/-- Whether the next argument is the value of an option. -/
def isAwaiting (g : Given) : Bool :=
  match g.pending with
  | .awaiting _ => true
  | _ => false

end Given

open Given (Result)

/-! ## The line -/

/-- The arguments of a subcommand. -/
def subcommandArgs (level : Level) (g : Given) : List String → Result Given
  | [] => g.settle
  | arg :: rest => do
      let g ← if g.trailing then g.positional level arg else g.argument level arg
      subcommandArgs level g rest

/-- The options for what was given before and after a subcommand. -/
def optionsOf (level : Level) (before after : Given) : Options :=
  { Options.default with
    statistics := before.statistics || after.statistics
    verbose := if after.verbose = 0 then before.verbose else after.verbose
    quiet := before.quiet || after.quiet
    logLevel := after.logLevel <|> before.logLevel
    explain := level = .explain
    dump := level = .dump
    input := after.file
    output := after.output
    exportType := after.exportType }

/-- What follows `help`: at most the name of one subcommand. -/
def helpArgs : List String → UsageError
  | [] => .help
  | [name] => if (subcommand? name).isSome then .help else .invalidSubcommand
  | _ => .invalidSubcommand

/-- The whole line from an argument before the subcommand on. What stands before the subcommand is
settled only after it. -/
def lineFrom (g : Given) : List String → Result Options
  | [] => do
      let g ← g.settle
      if g.isEmpty then .error .helpForEmptyLine else .error .missingSubcommand
  | arg :: rest =>
      let command := if g.trailing || g.isAwaiting then none else subcommand? arg
      match command with
      | some .help => .error (helpArgs rest)
      | some (.run level) => do
          let after ← subcommandArgs level Given.empty rest
          let before ← g.settle
          .ok (optionsOf level before after)
      | none => do
          let g ← if g.trailing then g.positional .top arg else g.argument .top arg
          lineFrom g rest

/-- The options a command line asks for; the program's own name is not part of it. -/
def parse (args : List String) : Result Options := lineFrom Given.empty args

end Unsugar.CommandLine
