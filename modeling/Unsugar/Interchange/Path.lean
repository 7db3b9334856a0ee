import Unsugar.Json.Basic

/-!
# Paths into a JSON value
-/

namespace Unsugar

/-- One step down: to a member of an object or to an item of a list. -/
inductive PathStep where
  | field (name : String)
  | index (i : Nat)
deriving DecidableEq, Repr

/-- The steps from the root to a value inside it. -/
abbrev Path := List PathStep

namespace Path

def stepText : PathStep → String
  | .field name => "." ++ name
  | .index i => "[" ++ toString i ++ "]"

/-- `$` for the root, then `.name` and `[i]` for the steps. -/
def text (path : Path) : String := "$" ++ String.join (path.map stepText)

/-- The value a step leads to. -/
def down? : PathStep → Json → Option Json
  | .field name, v => v.get? name
  | .index i, .arr items => items[i]?
  | .index _, _ => none

/-- The value a path leads to. -/
def follow? : Path → Json → Option Json
  | [], v => some v
  | step :: path, v => (down? step v).bind (follow? path)

end Path

end Unsugar
