import Unsugar.Desugar.Container
import Unsugar.Desugar.Refusal

/-!
# Desugaring expressions

In a body, an aggregate becomes stores into a new container or into its base, and a dotted field
becomes a fetch. Everywhere else sugar stays as it is, except that a field in a pattern has no meaning
and is refused. All other nodes are rebuilt from their children, in the order of their fields, and a
node outside the grammar is refused.
-/

namespace Unsugar

mutual

/-- The expression with its sugar replaced, for the role it plays. -/
def Expr.desugar (ctx : Context) (e : Expr) : Desugared Expr :=
  Desugared.within ⟨e.tag, e.loc⟩ <|
    match e with
    | .lit .. | .var .. | .funRef .. | .recordIndex .. => .ok e
    | .tuple l es => return .tuple l (← Expr.desugarList ctx es)
    | .cons l h t => return .cons l (← h.desugar ctx) (← t.desugar ctx)
    | .bin l ss => return .bin l (← Segment.desugarList ctx ss)
    | .binOp l op a b => return .binOp l op (← a.desugar ctx) (← b.desugar ctx)
    | .unOp l op a => return .unOp l op (← a.desugar ctx)
    | .call l f args => return .call l (← f.desugar ctx) (← Expr.desugarList ctx args)
    | .remote l m f => return .remote l (← m.desugar ctx) (← f.desugar ctx)
    | .listComp l t qs => return .listComp l (← t.desugar ctx) (← Qualifier.desugarList ctx qs)
    | .binComp l t qs => return .binComp l (← t.desugar ctx) (← Qualifier.desugarList ctx qs)
    | .block l es => return .block l (← Expr.desugarList ctx es)
    | .ifs l cs => return .ifs l (← Clause.desugarList cs)
    | .caseOf l s cs => return .caseOf l (← s.desugar ctx) (← Clause.desugarList cs)
    | .tryOf l es cs hs after =>
        return .tryOf l (← Expr.desugarList ctx es) (← Clause.desugarList cs)
          (← Clause.desugarList hs) (← Expr.desugarList ctx after)
    | .catching l a => return .catching l (← a.desugar ctx)
    | .receive l cs after =>
        return .receive l (← Clause.desugarList cs) (← After.desugarOpt ctx after)
    | .closure l cs => return .closure l (← Clause.desugarList cs)
    | .namedClosure l name cs => return .namedClosure l name (← Clause.desugarList cs)
    | .remoteFunRef l m name arity =>
        return .remoteFunRef l (← m.desugar ctx) (← name.desugar ctx) (← arity.desugar ctx)
    | .record l base name fs =>
        return .record l (← Expr.desugarOpt ctx base) name (← RecordField.desugarList ctx fs)
    | .recordField l a name field => return .recordField l (← a.desugar ctx) name field
    | .map l base es => do
        let base ← Expr.desugarOpt ctx base
        let es ← Entry.desugarList ctx es
        if ctx = .body then return Container.storeAll (base.getD (Container.new l)) es
        else return .map l base es
    | .field l none name => .error (.missingBase l name)
    | .field l (some base) name =>
        if base.isEmptyAtom then return .field l (some (← base.desugar ctx)) name
        else
          match ctx with
          | .pattern => .error (.unsupported e ctx [])
          | .body => return Container.fetch l name (← base.desugar ctx)
          | .undefined | .guard => return .field l (some (← base.desugar ctx)) name
    | .exception l kind p stack =>
        return .exception l (← kind.desugar ctx) (← p.desugar ctx) (← Expr.desugarOpt ctx stack)
    | .bind l p a => return .bind l (← p.desugar .pattern) (← a.desugar ctx)
    | .foreign .. => .error (.unsupported e ctx [])

def Expr.desugarList (ctx : Context) : List Expr → Desugared (List Expr)
  | [] => .ok []
  | e :: rest => return (← e.desugar ctx) :: (← Expr.desugarList ctx rest)

def Expr.desugarOpt (ctx : Context) : Option Expr → Desugared (Option Expr)
  | none => .ok none
  | some e => return some (← e.desugar ctx)

/-- Every test of a guard sequence. -/
def Expr.desugarGuards (ctx : Context) : List (List Expr) → Desugared (List (List Expr))
  | [] => .ok []
  | g :: rest => return (← Expr.desugarList ctx g) :: (← Expr.desugarGuards ctx rest)

/-- A clause, which sets the roles of its parts whatever role it stands in. -/
def Clause.desugar : Clause → Desugared Clause
  | ⟨l, patterns, guards, body⟩ =>
      Desugared.within ⟨"clause", l⟩ do
        return ⟨l, ← Expr.desugarList .pattern patterns, ← Expr.desugarGuards .guard guards,
          ← Expr.desugarList .body body⟩

def Clause.desugarList : List Clause → Desugared (List Clause)
  | [] => .ok []
  | c :: rest => return (← c.desugar) :: (← Clause.desugarList rest)

def Segment.desugarList (ctx : Context) : List Segment → Desugared (List Segment)
  | [] => .ok []
  | ⟨l, e, size, types⟩ :: rest =>
      return ⟨l, ← e.desugar ctx, ← Expr.desugarOpt ctx size, types⟩
        :: (← Segment.desugarList ctx rest)

/-- A qualifier. -/
def Qualifier.desugar (ctx : Context) : Qualifier → Desugared Qualifier
  | .generate l p s => return .generate l (← p.desugar ctx) (← s.desugar ctx)
  | .binGenerate l p s => return .binGenerate l (← p.desugar ctx) (← s.desugar ctx)
  | .filter test => return .filter (← test.desugar ctx)

def Qualifier.desugarList (ctx : Context) : List Qualifier → Desugared (List Qualifier)
  | [] => .ok []
  | q :: rest => return (← q.desugar ctx) :: (← Qualifier.desugarList ctx rest)

def RecordField.desugarList (ctx : Context) : List RecordField → Desugared (List RecordField)
  | [] => .ok []
  | ⟨l, name, e⟩ :: rest =>
      return ⟨l, name, ← e.desugar ctx⟩ :: (← RecordField.desugarList ctx rest)

def Entry.desugarList (ctx : Context) : List Entry → Desugared (List Entry)
  | [] => .ok []
  | ⟨l, key, e⟩ :: rest => return ⟨l, key, ← e.desugar ctx⟩ :: (← Entry.desugarList ctx rest)

def After.desugarOpt (ctx : Context) : Option After → Desugared (Option After)
  | none => .ok none
  | some ⟨timeout, body⟩ =>
      return some ⟨← timeout.desugar ctx, ← Expr.desugarList ctx body⟩

end

/-- What the rules for sugar make of a node in a body. -/
inductive Offer where
  /-- A rule applies, with this result; the children are desugared too. -/
  | accepted (e : Expr)
  /-- No rule applies. -/
  | declined

/-- Offers a node of a body to the rules for sugar alone. -/
def Expr.offer : Expr → Desugared Offer
  | .map l base es => do
      let base ← Expr.desugarOpt .body base
      let es ← Entry.desugarList .body es
      return .accepted (Container.storeAll (base.getD (Container.new l)) es)
  | .field l none name => .error (.missingBase l name)
  | .field l (some base) name =>
      if base.isEmptyAtom then .ok .declined
      else return .accepted (Container.fetch l name (← base.desugar .body))
  | _ => .ok .declined

end Unsugar
