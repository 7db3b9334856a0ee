import Unsugar.Term.Basic

/-!
# Building terms

Nodes made by hand, with every location a bare line or one given location.
-/

namespace Unsugar.Expr

def atom (line : UInt32) (name : String) : Expr := .lit (.onLine line) (.atom name)

def int (line : UInt32) (n : Int64) : Expr := .lit (.onLine line) (.integer n)

def string (line : UInt32) (s : String) : Expr := .lit (.onLine line) (.str s)

def nil (line : UInt32) : Expr := .lit (.onLine line) .nil

/-- A proper list: cells that end in the empty list. -/
def list (line : UInt32) (elements : List Expr) : Expr :=
  elements.foldr (fun head tail => .cons (.onLine line) head tail) (nil line)

/-- A call of a local function. -/
def localCall (line : UInt32) (function : String) (args : List Expr) : Expr :=
  .call (.onLine line) (atom line function) args

/-- A call `module:function(args)` with every node of the name at `loc`. -/
def remoteCall (loc : Loc) (module function : String) (args : List Expr) : Expr :=
  .call loc (.remote loc (.lit loc (.atom module)) (.lit loc (.atom function))) args

end Unsugar.Expr
