import Unsugar.Desugar.Expr
import Unsugar.Form

/-!
# Desugaring units

A session desugars the forms of units one after the other. All it remembers is the last file marker,
against which refusals are reported; the marker outlives a unit and also a failure.
-/

namespace Unsugar

/-- The name under which failures are reported to the host. -/
def toolName : String := "mapsugar"

/-- One error as the host reports it. -/
structure Complaint where
  line : UInt32
  tool : String
  detail : String
deriving DecidableEq, Repr

/-- Why a unit was not desugared. -/
inductive TransformError where
  /-- A gap in the rules, found while desugaring forms of `file`. -/
  | missingRule (file : String) (source : Refusal)
  /-- Errors in the program of `file`. -/
  | failed (file : String) (complaints : List Complaint)

namespace TransformError

def message : TransformError → String
  | missingRule file source => s!"{file}: {source.message}"
  | failed file complaints =>
      "\n".intercalate (complaints.map fun c => s!"{file}:{c.line}: {c.detail}")

def file : TransformError → String
  | missingRule file _ | failed file _ => file

/-- A refusal, reported against a file. -/
def ofRefusal (file : String) : Refusal → TransformError
  | .malformed line detail => failed file [⟨line, toolName, detail⟩]
  | source => missingRule file source

end TransformError

/-- The form with its code desugared; only functions hold code. -/
def Form.desugar : Form → Desugared Form
  | .function l name arity cs =>
      Desugared.within ⟨s!"function {name}/{arity}", l⟩ do
        return .function l name arity (← Clause.desugarList cs)
  | f => .ok f

/-- What is remembered between forms: the last file marker. -/
structure Session where
  marker : Option String
deriving DecidableEq, Repr

namespace Session

def new : Session := ⟨none⟩

/-- A session for the forms of a file, until a marker says otherwise. -/
def forFile (name : String) : Session := ⟨some name⟩

/-- The file that refusals are reported against. -/
def file (s : Session) : String := s.marker.getD "nofile"

/-- The session once a form has been seen. -/
def see (s : Session) : Form → Session
  | .file _ name _ => ⟨some name⟩
  | _ => s

/-- The forms of a unit desugared in order, up to the first refusal, and the session after them. -/
def transform (s : Session) : List Form → Except TransformError (List Form) × Session
  | [] => (.ok [], s)
  | f :: rest =>
      let s := s.see f
      match f.desugar with
      | .error r => (.error (.ofRefusal s.file r), s)
      | .ok f' =>
          let (outcome, s) := s.transform rest
          (outcome.map (f' :: ·), s)

end Session

/-- A unit desugared in a session of its own. -/
def Form.transform (forms : List Form) : Except TransformError (List Form) :=
  (Session.new.transform forms).1

end Unsugar
