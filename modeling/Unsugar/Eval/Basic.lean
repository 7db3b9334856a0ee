import Unsugar.Eval.Dict
import Unsugar.Desugar.Container
import Unsugar.Term.Kind

/-!
# Evaluation

What desugared code computes: literals, variables, tuples, lists, arithmetic, blocks, matches with a
variable on the left, and calls of the container. Evaluation threads an environment, which a match
extends; bindings made before a failure stay.
-/

namespace Unsugar

/-- Why an expression has no value. -/
inductive EvalError where
  | unbound (name : String)
  | badMatch (value : String)
  | badKey (key : String)
  | badArg (operation : String)
  | undefined (function : String)
  | unsupported (kind : String)
deriving DecidableEq, Repr

def EvalError.message : EvalError → String
  | unbound name => s!"variable {name} is unbound"
  | badMatch value => s!"no match of right hand side value {value}"
  | badKey key => s!"key {key} not found"
  | badArg operation => s!"bad argument to {operation}"
  | undefined function => s!"undefined function {function}"
  | unsupported kind => s!"cannot evaluate {kind} node"

/-- Bindings of variables, sorted by name. -/
abbrev Env := List (String × Value)

/-- Evaluation from an environment to an outcome and the environment after it. -/
abbrev Eval (α : Type) := Env → Except EvalError α × Env

namespace Eval

def pure {α : Type} (a : α) : Eval α := fun env => (.ok a, env)

def fail {α : Type} (e : EvalError) : Eval α := fun env => (.error e, env)

/-- One evaluation after the other; a failure ends both and keeps the environment it left. -/
def bind {α β : Type} (x : Eval α) (f : α → Eval β) : Eval β := fun env =>
  match x env with
  | (.ok a, env) => f a env
  | (.error e, env) => (.error e, env)

instance : Monad Eval where
  pure := pure
  bind := bind

/-- An outcome that needs no environment. -/
def lift {α : Type} (r : Except EvalError α) : Eval α := fun env => (r, env)

/-- The value of a variable. -/
def lookup (name : String) : Eval Value := fun env =>
  match env.lookup name with
  | some v => (.ok v, env)
  | none => (.error (.unbound name), env)

/-- Matches a variable against a value. An unbound one is bound; the wildcard never is. -/
def assign (name : String) (v : Value) : Eval Value := fun env =>
  if name = "_" then (.ok v, env)
  else
    match env.lookup name with
    | some bound => if bound.same v then (.ok v, env) else (.error (.badMatch v.text), env)
    | none => (.ok v, Assoc.insert name v env)

end Eval

/-! ## Operations on values -/

namespace Value

/-- The value of a literal; a character is its code point. -/
def ofLiteral : Literal → Value
  | .atom name => atom name
  | .integer n => integer n
  | .float x => float x
  | .char c => integer (Int64.ofNat c.toNat)
  | .str s => str s
  | .nil => list []

def toFloat? : Value → Option Float
  | integer n => some n.toFloat
  | float x => some x
  | _ => none

/-- A value in front of a list. -/
def cons (head tail : Value) : Except EvalError Value :=
  match tail with
  | list items => .ok (list (head :: items))
  | other => .error (.badArg s!"[_|{other.text}]")

def unary (op : String) (v : Value) : Except EvalError Value :=
  match op, v with
  | "-", integer n => .ok (integer (-n))
  | "-", float x => .ok (float (-x))
  | "+", integer n => .ok (integer n)
  | "+", float x => .ok (float x)
  | op, _ => .error (.badArg op)

/-- Integer operations wrap at 64 bits. Division truncates, and is undefined by zero and where the
quotient does not fit. -/
def integerOp (op : String) (a b : Int64) : Option (Except EvalError Value) :=
  let defined := b ≠ 0 ∧ ¬(a = Int64.minValue ∧ b = -1)
  match op with
  | "+" => some (.ok (integer (a + b)))
  | "-" => some (.ok (integer (a - b)))
  | "*" => some (.ok (integer (a * b)))
  | "div" => some (if defined then .ok (integer (a / b)) else .error (.badArg op))
  | "rem" => some (if defined then .ok (integer (a % b)) else .error (.badArg op))
  | _ => none

def floatOp (op : String) (x y : Float) : Except EvalError Value :=
  match op with
  | "+" => .ok (float (x + y))
  | "-" => .ok (float (x - y))
  | "*" => .ok (float (x * y))
  | "/" => if y == 0.0 then .error (.badArg op) else .ok (float (x / y))
  | _ => .error (.badArg op)

/-- Operands that are not both integers, or that no integer operation takes, count as floats. -/
def mixedOp (op : String) (a b : Value) : Except EvalError Value :=
  match a.toFloat?, b.toFloat? with
  | some x, some y => floatOp op x y
  | _, _ => .error (.badArg op)

def binary (op : String) (a b : Value) : Except EvalError Value :=
  match a, b with
  | integer m, integer n => (integerOp op m n).getD (mixedOp op a b)
  | _, _ => mixedOp op a b

/-- A call of the container module. -/
def containerCall (function : String) (args : List Value) : Except EvalError Value :=
  let signature := s!"{Container.module}:{function}/{args.length}"
  match function, args with
  | "new", [] => .ok (dict Dict.new)
  | "store", [atom key, v, dict d] => .ok (dict (Dict.store key v d))
  | "fetch", [atom key, dict d] =>
      match Dict.fetch? key d with
      | some v => .ok v
      | none => .error (.badKey key)
  | "store", [_, _, _] | "fetch", [_, _] => .error (.badArg signature)
  | _, _ => .error (.undefined signature)

end Value

/-! ## Expressions -/

/-- The module and the name of a callee that is a pair of atoms. -/
def Expr.remoteName? : Expr → Option (String × String)
  | .remote _ m f =>
      match m.atomName?, f.atomName? with
      | some m, some f => some (m, f)
      | _, _ => none
  | _ => none

mutual

/-- Evaluates an expression. The arguments of a call are evaluated only if the container is called. -/
def Expr.eval : Expr → Eval Value
  | .lit _ v => return .ofLiteral v
  | .var _ name => Eval.lookup name
  | .tuple _ es => return .tuple (← Expr.evalList es)
  | .cons _ h t => do
      let head ← h.eval
      let tail ← t.eval
      Eval.lift (head.cons tail)
  | .binOp _ op l r => do
      let a ← l.eval
      let b ← r.eval
      Eval.lift (Value.binary op a b)
  | .unOp _ op e => do Eval.lift (Value.unary op (← e.eval))
  | .block _ es => Expr.evalBody (.atom "ok") es
  | .bind _ p e => do
      let v ← e.eval
      match p with
      | .var _ name => Eval.assign name v
      | p => Eval.fail (.unsupported p.tag)
  | .call _ f args =>
      match f.remoteName? with
      | none => Eval.fail (.unsupported Kind.call.tag)
      | some (module, name) =>
          if module = Container.module then do
            let values ← Expr.evalList args
            Eval.lift (Value.containerCall name values)
          else Eval.fail (.undefined s!"{module}:{name}/{args.length}")
  | e => Eval.fail (.unsupported e.tag)

def Expr.evalList : List Expr → Eval (List Value)
  | [] => return []
  | e :: rest => return (← e.eval) :: (← Expr.evalList rest)

/-- The value of the last expression; of no expression at all, the value given. -/
def Expr.evalBody (last : Value) : List Expr → Eval Value
  | [] => return last
  | e :: rest => do
      let v ← e.eval
      Expr.evalBody v rest

end

/-- The value of an expression without free variables. -/
def Expr.evalClosed (e : Expr) : Except EvalError Value := (e.eval []).1

end Unsugar
