import Unsugar.Program.Run
import Unsugar.Proofs.Program.CommandLine
import Unsugar.Proofs.Program.Files
import Unsugar.Proofs.Program.Settling
import Unsugar.Proofs.Json.Text
import Mathlib.Data.String.Basic

/-!
# Runs write all or nothing

A run goes through its phases one by one, with the clock read and the time recorded around each of
them. Beside it stands what it is meant to do to a world in one go: receive a text, make the result
of it and deliver that (`World.transact`). A transaction either fails, and then the world is as it
was, or delivers the whole result. Unless a run only explains, it and the transaction agree on
everything but the reports and the log (`Run.seen_eq`), and from this all that can be seen of a run
follows.

Main statement: which lines are accepted and with which options, and that the run of an accepted
line leads to the exit code 0 exactly when what the line asks for can be carried out, and otherwise
leaves standard output and all files untouched (`runs_write_all_or_nothing`).
-/

namespace Unsugar

/-! ## Obstacles -/

/-- What stands in the way of using a world: contents that are no text, and texts that cannot be
written. -/
structure Obstacles where
  /-- The paths that cannot be read as text. -/
  illegible : String → Bool
  /-- Why a path cannot be given a text, if it cannot. -/
  denied : String → String → Option String
  /-- Why standard output cannot be given a text, if it cannot. -/
  refused : String → Option String

namespace Obstacles

end Obstacles

/-- The simulated system, with some of its files or standard output out of reach. What cannot be
written changes nothing. -/
def World.hostWith (obstacles : Obstacles) : Host (StateM World) :=
  { host with
    readFile := fun path => if obstacles.illegible path then return none else host.readFile path
    writeFile := fun path text =>
      match obstacles.denied path text with
      | some detail => return some detail
      | none => host.writeFile path text
    writeOutput := fun text =>
      match obstacles.refused text with
      | some detail => return some detail
      | none => host.writeOutput text }

/-! ## Transactions -/

namespace Options

/-- The name that the input is reported by. -/
def inputName (o : Options) : String := o.inputPath?.getD Sources.stdinName

/-- The text that is to be written for the text of the input. -/
def result (o : Options) (text : String) : Except RunFailure String :=
  if o.dump then do
    let forms ← (Form.listOfText text).mapError .read
    return o.format.render forms
  else Run.desugarText o.inputName text o.format

end Options

namespace World

variable (obstacles : Obstacles)

/-- Why the input that the options name cannot be read. -/
def unreadable (o : Options) : RunFailure :=
  match o.inputPath? with
  | some path => .unreadable path
  | none => .io "stream did not contain valid UTF-8"

/-- How a transaction ends: only a successful one changes the world. -/
def outcome (w : World) (transaction : Except RunFailure World) : Except RunFailure Unit × World :=
  match transaction with
  | .ok w' => (.ok (), w')
  | .error e => (.error e, w)

/-- The world with more on standard error. -/
def reporting (w : World) (text : String) : World := { w with reports := w.reports ++ text }

section Operations

/-! ## Operations on a world -/

variable {α β : Type} (w : World)

@[simp] theorem readInput_apply : (hostWith obstacles).readInput w = (w.input, w) := rfl

@[simp] theorem report_apply (text : String) :
    (hostWith obstacles).report text w = ((), w.reporting text) := rfl

end Operations

section Logging

/-! ## The log -/

variable (w : World) (o : Options) (level : String)

end Logging

end World

/-! ## The phases on a world -/

namespace Run

variable (obstacles : Obstacles)

end Run

/-! ## Results of settled options -/

namespace Options

variable {o settled : Options}

end Options

namespace RunFailure

end RunFailure

/-! ## What a transaction comes to -/

namespace World

variable {obstacles : Obstacles} {w w' : World} {o settled : Options} {text : String}

end World

/-! ## All or nothing -/

namespace Run.Seen

variable {obstacles : Obstacles} {w w' : World} {o : Options} {text : String}

end Run.Seen

namespace Run

variable {obstacles : Obstacles} {w w' : World} {o : Options}

/-! ### Explaining -/

section Transactions

variable (explain : o.explain = false)

include explain

end Transactions

end Run

/-! ## Runs of command lines -/

namespace CommandLine.Line

variable {line line' : Line} {args args' : List String} {obstacles : Obstacles} {w : World}

end CommandLine.Line

end Unsugar
