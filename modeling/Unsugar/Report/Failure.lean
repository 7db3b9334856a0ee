import Unsugar.Interchange.Error
import Unsugar.Desugar.Session
import Unsugar.Report.Diagnostic

/-!
# Failures of a run

Everything that can go wrong between the command line and the output, with its diagnostic and the exit
code it leads to.
-/

namespace Unsugar

namespace ReadError

def diagnostic (e : ReadError) : Diagnostic :=
  let notes := match e with
    | text _ => ["input should be a JSON list of forms as produced by the host compiler"]
    | _ => []
  ⟨.error, e.message, notes, []⟩

end ReadError

namespace TransformError

/-- The way to a node, outermost first; nothing for an empty way. -/
def trailNote (trail : List Frame) : List String :=
  if trail.isEmpty then []
  else ["while rewriting:\n" ++ "\n".intercalate (trail.reverse.map fun f => "- " ++ f.text)]

/-- A gap in the rules is a bug of the tool; an error in the program is the program's. -/
def diagnostic : TransformError → Diagnostic
  | missingRule file source =>
      ⟨.bug, source.message,
        ["in " ++ file] ++ trailNote source.trail
          ++ ["the rewrite has no rule for this construct; this is a limitation, not an error in the program"],
        []⟩
  | failed file complaints =>
      ⟨.error, (failed file complaints).message,
        complaints.map fun c => s!"reported by {c.tool} at {file}:{c.line}", []⟩

end TransformError

/-- Why a run fails. -/
inductive RunFailure where
  | read (error : ReadError)
  | transform (error : TransformError)
  /-- A failure of a stream or a file, in the system's words. -/
  | io (detail : String)
  | unknownFormat (name : String)
  | unreadable (path : String)

namespace RunFailure

def message : RunFailure → String
  | read e => e.message
  | transform e => e.message
  | io detail => detail
  | unknownFormat name => s!"unknown export format {name}"
  | unreadable path => s!"path {path} could not be read"

def diagnostic : RunFailure → Diagnostic
  | read e => e.diagnostic
  | transform e => e.diagnostic
  | e => ⟨.error, e.message, [], []⟩

/-- A gap in the rules has an exit code of its own. -/
def exitCode : RunFailure → UInt32
  | transform (.missingRule _ _) => 2
  | _ => 1

end RunFailure

end Unsugar
