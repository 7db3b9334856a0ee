import Unsugar.Interchange.Reader
import Unsugar.Report.Failure

/-!
# Loaded sources

The texts read so far, numbered from zero, are kept so that failures can point into them.
-/

namespace Unsugar

/-- The sources by their numbers. -/
abbrev Sources := List Source

namespace Sources

/-- The name under which standard input is reported. -/
def stdinName : String := "<stdin>"

/-- The sources with one more, whose number is returned. -/
def add (sources : Sources) (name text : String) : Nat × Sources :=
  (sources.length, sources ++ [⟨name, text⟩])

def name? (sources : Sources) (id : Nat) : Option String := sources[id]?.map (·.name)

/-- The forms of a source. A number that was never given out counts as a path. -/
def forms (sources : Sources) (id : Nat) : Except RunFailure (List Form) :=
  match sources[id]? with
  | none => .error (.unreadable (toString id))
  | some source => (Form.listOfText source.text).mapError .read

/-- The offset of a line and a column, neither beyond the start of the next line nor the end of the
text; none if there is no such line. Column 0 stands for column 1. -/
def offset? (sources : Sources) (id : Nat) (position : Text.Position) : Option Nat := do
  let source ← sources[id]?
  if position.line = 0 then none
  else
    let (start, stop) ← Text.lineRange? source.text (position.line - 1)
    return min (start + (position.column - 1)) stop

/-- The diagnostic of a failure. Text that is no JSON is labelled in the given source. -/
def diagnostic (sources : Sources) (id : Option Nat) (failure : RunFailure) : Diagnostic :=
  let plain := failure.diagnostic
  match id, failure with
  | some id, .read (.text e) =>
      match sources.offset? id e.position with
      | some offset => { plain with labels := [⟨id, offset, offset, "here"⟩] }
      | none => plain
  | _, _ => plain

end Sources

end Unsugar
