/-!
# Syntactic roles
-/

namespace Unsugar

/-- The role of the subtree being desugared. Clauses set it for their parts and a match for its left
side; everywhere else it is inherited. -/
inductive Context where
  /-- Outside every clause. -/
  | undefined
  /-- Code that produces a value, the only place for calls at run time. -/
  | body
  | pattern
  | guard
deriving DecidableEq, Repr

def Context.name : Context → String
  | undefined => "undefined"
  | body => "body"
  | pattern => "pattern"
  | guard => "guard"

end Unsugar
