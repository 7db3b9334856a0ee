/-!
# Source locations
-/

namespace Unsugar

/-- Where a node stands in the source: a line and perhaps a column, as the host compiler gave them.
Line 0 stands for no place in particular. -/
structure Loc where
  line : UInt32
  column : Option UInt32
deriving DecidableEq, Repr

namespace Loc

def onLine (line : UInt32) : Loc := ⟨line, none⟩

def unknown : Loc := onLine 0

/-- `line`, or `line:column`. -/
def text (loc : Loc) : String :=
  match loc.column with
  | none => toString loc.line
  | some column => s!"{loc.line}:{column}"

end Loc

end Unsugar
