import Unsugar.Term.Basic

/-!
# Forms

A compilation unit is a sequence of top-level forms. Only functions hold code; a file marker says
which file the forms after it came from.
-/

namespace Unsugar

/-- A top-level form. -/
inductive Form where
  | file (loc : Loc) (name : String) (line : UInt32)
  | function (loc : Loc) (name : String) (arity : UInt64) (clauses : List Clause)
  /-- Any other attribute, its value as it was read. -/
  | attr (loc : Loc) (name : String) (value : Json)
  | eof (loc : Loc)
  /-- A form that is not interpreted. -/
  | other (value : Json)

namespace Form

def loc : Form → Loc
  | file l _ _ | function l _ _ _ | attr l _ _ | eof l => l
  | other _ => .unknown

/-- A function whose arity is that of its first clause. -/
def ofClauses (line : UInt32) (name : String) (clauses : List Clause) : Form :=
  let arity := (clauses.head?.map (·.patterns.length)).getD 0
  .function (.onLine line) name (UInt64.ofNat arity) clauses

/-- A marker for the start of a file. -/
def fileMarker (line : UInt32) (name : String) : Form := .file (.onLine line) name line

end Form

/-- The location of a sequence: that of its first element. -/
def Loc.ofFirst {α : Type u} (loc : α → Loc) (xs : List α) : Loc := (xs.head?.map loc).getD .unknown

end Unsugar
