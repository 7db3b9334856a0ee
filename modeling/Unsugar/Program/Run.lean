import Unsugar.Program.Host
import Unsugar.Program.CommandLine
import Unsugar.Program.Timings
import Unsugar.Report.Sources

/-!
# Runs

A run settles its options, loads the input, reads the forms, desugars them unless it only dumps them,
renders them and writes the result. The first phase that fails ends it with a diagnostic and an exit
code; nothing is written before all other phases have succeeded.
-/

namespace Unsugar.Run

variable {m : Type → Type} [Monad m]

/-- A phase and its time, recorded whether it succeeds or not. -/
def timed {α : Type} (host : Host m) (phase : String) (timings : Timings) (act : Unit → m α) :
    m (α × Timings) := do
  let start ← host.clock
  let result ← act ()
  let stop ← host.clock
  return (result, timings.record phase (stop - start))

/-- The input under the name it is reported by. -/
def load (host : Host m) (o : Options) : m (Except RunFailure Source) := do
  match o.inputPath? with
  | some path =>
      match ← host.readFile path with
      | some text => return .ok ⟨path, text⟩
      | none => return .error (.unreadable path)
  | none =>
      match ← host.readInput with
      | some text => return .ok ⟨Sources.stdinName, text⟩
      | none => return .error (.io "stream did not contain valid UTF-8")

/-- Writes the result to the output of the options. -/
def write (host : Host m) (o : Options) (text : String) : m (Except RunFailure Unit) := do
  let problem ← match o.output with
    | some path => host.writeFile path text
    | none => host.writeOutput text
  return match problem with
    | none => .ok ()
    | some detail => .error (.io detail)

/-- Forms desugared under the name of their source. -/
def desugarForms (name : String) (forms : List Form) : Except RunFailure (List Form) :=
  ((Session.forFile name).transform forms).1.mapError .transform

/-- Reads, desugars and renders a loaded source and writes the result. -/
def process (host : Host m) (o : Options) (sources : Sources) (id : Nat) (timings : Timings) :
    m (Except RunFailure Unit × Timings) := do
  let (forms, timings) ← timed host "read" timings fun _ => pure (sources.forms id)
  match forms with
  | .error e => return (.error e, timings)
  | .ok forms =>
      let (desugared, timings) ←
        if o.dump then pure (.ok forms, timings)
        else
          timed host "rewrite" timings fun _ =>
            pure (desugarForms ((sources.name? id).getD Sources.stdinName) forms)
      match desugared with
      | .error e => return (.error e, timings)
      | .ok forms =>
          let (text, timings) ← timed host "render" timings fun _ => pure (o.format.render forms)
          timed host "write" timings fun _ => write host o text

/-- Reads and desugars a text and renders the result, all in one. -/
def desugarText (name text : String) (format : Format) : Except RunFailure String := do
  let forms ← (Form.listOfText text).mapError RunFailure.read
  let forms ← desugarForms name forms
  return format.render forms

/-- Reports a failure, pointing into a source if that helps; its exit code. -/
def fail (host : Host m) (sources : Sources) (id : Option Nat) (e : RunFailure) : m UInt32 := do
  host.report ((sources.diagnostic id e).render sources)
  return e.exitCode

/-- The block of timings at the end of a run. -/
def statistics (timings : Timings) : String :=
  "\n~~~~~~~~~~\nSTATISTICS\n~~~~~~~~~~\n\n" ++ timings.render ++ "\n"

/-- The run after its options are settled. -/
def runSettled (host : Host m) (o : Options) : m UInt32 := do
  let (loaded, timings) ← timed host "load" [] fun _ => load host o
  let (code, timings) ← match loaded with
    | .error e => do
        let code ← fail host [] none e
        pure (code, timings)
    | .ok source => do
        let (id, sources) := Sources.add [] source.name source.text
        let (result, timings) ← process host o sources id timings
        match result with
        | .ok () => pure (0, timings)
        | .error e => do
            let code ← fail host sources (some id) e
            pure (code, timings)
  if o.statistics then host.report (statistics timings)
  return code

/-- Prints a text at the end of a run; the exit code. Here a failure has no diagnostic and a code of
its own. -/
def print (host : Host m) (text : String) : m UInt32 := do
  match ← host.writeOutput text with
  | none => return 0
  | some detail => do
      host.report s!"failed printing to stdout: {detail}\n"
      return 101

/-- A run with the options of its command line; its exit code. -/
def run (host : Host m) (o : Options) : m UInt32 := do
  host.openLog o.logFilter
  match o.settle with
  | (_, some e) => fail host [] none e
  | (o, none) => if o.explain then print host (o.explanation ++ "\n") else runSettled host o

end Unsugar.Run
