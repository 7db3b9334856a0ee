import Unsugar.Report.Failure
import Unsugar.Interchange.Writer
import Unsugar.Listing

/-!
# Options

What a run is asked to do. The export type is a name as the user gave it; settling the options makes a
format of it, and of the ending of the output path if the user named none.
-/

namespace Unsugar

inductive LogLevel where
  | error | warn | info | debug | trace
deriving DecidableEq, Repr

namespace LogLevel

def name : LogLevel → String
  | error => "error"
  | warn => "warn"
  | info => "info"
  | debug => "debug"
  | trace => "trace"

def ofName? (name : String) : Option LogLevel :=
  [error, warn, info, debug, trace].find? (·.name = name)

end LogLevel

/-- The format of the output. -/
inductive Format where
  | json
  /-- Source-like text. -/
  | listing
deriving DecidableEq, Repr

/-- The formats by the names users know them by. -/
def Format.ofName? : String → Option Format
  | "json" => some json
  | "pretty" | "text" | "erl" => some listing
  | _ => none

/-- The forms of a unit as text in a format. -/
def Format.render (format : Format) (forms : List Form) : String :=
  match format with
  | json => Form.listToText forms
  | listing => Form.unitListing forms

structure Options where
  statistics : Bool
  verbose : Nat
  quiet : Bool
  logLevel : Option LogLevel
  explain : Bool
  dump : Bool
  /-- The input path; `-` and none stand for standard input. -/
  input : Option String
  /-- The output path; none stands for standard output. -/
  output : Option String
  exportType : Option String
  format : Format
deriving DecidableEq, Repr

namespace Options

def default : Options := ⟨false, 0, false, none, false, false, none, none, none, .json⟩

/-- The input path, none for standard input. -/
def inputPath? (o : Options) : Option String := o.input.filter (· ≠ "-")

/-- The level of the log. -/
def logFilter (o : Options) : String :=
  match o.logLevel with
  | some level => level.name
  | none =>
      if o.quiet then LogLevel.error.name
      else match o.verbose with
        | 0 => LogLevel.warn.name
        | 1 => LogLevel.info.name
        | 2 => LogLevel.debug.name
        | _ => LogLevel.trace.name

/-! ## Settling -/

/-- The parts of a path; empty parts and `.` lead nowhere. -/
def pathParts (path : String) : List String :=
  ((path.splitOn "/").filter fun part => part ≠ "" ∧ part ≠ ".")

/-- The ending of a path: what follows the last point of its last part, unless that point is the first
character. -/
def extension? (path : String) : Option String := do
  let part ← (pathParts path).getLast?
  if part = ".." then none
  else
    let ending := part.toList.reverse.takeWhile (· ≠ '.')
    if ending.length + 1 < part.length then some (String.ofList ending.reverse) else none

/-- The export type that goes with an output path. -/
def exportOfPath? (path : String) : Option String :=
  match extension? path with
  | some "json" => some "json"
  | some "erl" | some "txt" => some "pretty"
  | _ => none

/-- Fills in the export type that goes with the output, if none was given. -/
def withDerivedExport (o : Options) : Options :=
  match o.exportType, o.output with
  | none, some path => { o with exportType := exportOfPath? path }
  | _, _ => o

/-- Settles the format: a listing for a dump, else what the export type names, else JSON. The options
as they stand afterwards are returned also if the export type names no format. -/
def settle (o : Options) : Options × Option RunFailure :=
  let o := o.withDerivedExport
  if o.dump then ({ o with format := .listing }, none)
  else
    match o.exportType with
    | none => ({ o with format := .json }, none)
    | some name =>
        match Format.ofName? name with
        | some format => ({ o with format }, none)
        | none => (o, some (.unknownFormat name))

/-- The settled options. -/
def build (o : Options) : Except RunFailure Options :=
  match o.settle with
  | (o, none) => .ok o
  | (_, some e) => .error e

/-! ## Setting options one by one -/

def withInput (o : Options) (input : String) : Options := { o with input := some input }

def withOutput (o : Options) (path : String) : Options := { o with output := some path }

def withExportType (o : Options) (name : String) : Options := { o with exportType := some name }

def withDump (o : Options) : Options := { o with dump := true }

/-! ## Dry runs -/

/-- What the options ask for, in words. -/
def explanation (o : Options) : String :=
  let deed :=
    if o.dump then "read the forms and pretty print them unchanged"
    else "read the forms, desugar aggregate literals, updates and field access into orddict calls, and write the result"
  let format := match o.format with
    | .json => "json"
    | .listing => "pretty"
  let input := o.inputPath?.getD "stdin"
  let output := o.output.getD "stdout"
  s!"{toolName} will {deed}\n\nInput: {input}\nOutput: {format} to {output}\n"

end Options

end Unsugar
