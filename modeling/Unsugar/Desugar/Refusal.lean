import Unsugar.Desugar.Context
import Unsugar.Term.Kind

/-!
# Refusals

Why a tree cannot be desugared. Either no rule covers a node, which is a gap in the rules, or a
construct is wrong as written. A gap is reported with the way from the node outwards; a construct that
is wrong is reported with its line alone.
-/

namespace Unsugar

/-- A node on the way outwards. -/
structure Frame where
  kind : String
  loc : Loc
deriving DecidableEq, Repr

def Frame.text (f : Frame) : String := s!"{f.kind} at line {f.loc.text}"

inductive Refusal where
  /-- No rule covers the node in its context; the trail starts with the node itself. -/
  | unsupported (node : Expr) (context : Context) (trail : List Frame)
  | malformed (line : UInt32) (detail : String)

namespace Refusal

def message : Refusal → String
  | unsupported node context _ =>
      s!"no rewrite rule for {node.tag} node at line {node.loc.text} in {context.name} context"
  | malformed _ detail => detail

def trail : Refusal → List Frame
  | unsupported _ _ trail => trail
  | malformed _ _ => []

/-- The refusal as seen from the next node outwards. -/
def within (frame : Frame) : Refusal → Refusal
  | unsupported node context trail => unsupported node context (trail ++ [frame])
  | malformed line detail => malformed line detail

/-- A field without an expression to read it from. -/
def missingBase (loc : Loc) (name : String) : Refusal :=
  malformed loc.line s!"field access '.{name}' has no expression to read it from"

end Refusal

/-- The outcome of desugaring a part. -/
abbrev Desugared := Except Refusal

/-- Marks refusals that pass a node on their way outwards. -/
def Desugared.within {α : Type} (frame : Frame) (r : Desugared α) : Desugared α :=
  r.mapError (Refusal.within frame)

end Unsugar
