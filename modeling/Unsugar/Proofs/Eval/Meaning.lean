import Unsugar.Proofs.Desugar.Normal
import Unsugar.Proofs.Eval.Container

/-!
# The meaning of sugar

Sugar has a meaning of its own, which needs no calls: an aggregate evaluates the values of its
entries from the last one to the first, then its base if it has one, and overwrites the base with
all entries at once; a field evaluates its base and reads a key. On all other nodes the meaning is
evaluation.

Main statement: evaluating a desugared expression computes the meaning of the expression, from every
environment and with the same environment afterwards (`desugar_preserves_meaning`).
-/

namespace Unsugar

namespace Expr

/-- Matches a pattern against a value; patterns other than variables are not evaluated. -/
def matchValue (p : Expr) (v : Value) : Eval Value :=
  match p with
  | .var _ name => Eval.assign name v
  | p => Eval.fail (.unsupported p.tag)

/-- What is left of an expression without the updates around it that have no entries. -/
def peel : Expr → Expr
  | .map _ (some base) [] => base.peel
  | e => e

/-- The module and the name of a callee that is a pair of atoms, up to updates without entries. -/
def calleeName? (e : Expr) : Option (String × String) :=
  match e.peel with
  | .remote _ m f =>
      match m.peel.atomName?, f.peel.atomName? with
      | some m, some f => some (m, f)
      | _, _ => none
  | _ => none

end Expr

mutual

/-- The meaning of an expression of a body. -/
def Expr.meaning : Expr → Eval Value
  | .lit _ v => return .ofLiteral v
  | .var _ name => Eval.lookup name
  | .tuple _ es => return .tuple (← Expr.meaningList es)
  | .cons _ h t => do
      let head ← h.meaning
      let tail ← t.meaning
      Eval.lift (head.cons tail)
  | .binOp _ op l r => do
      let a ← l.meaning
      let b ← r.meaning
      Eval.lift (Value.binary op a b)
  | .unOp _ op e => do Eval.lift (Value.unary op (← e.meaning))
  | .block _ es => Expr.meaningBody (.atom "ok") es
  | .bind _ p e => do p.matchValue (← e.meaning)
  | .call _ f args =>
      match f.calleeName? with
      | none => Eval.fail (.unsupported Kind.call.tag)
      | some (module, name) =>
          if module = Container.module then do
            let values ← Expr.meaningList args
            Eval.lift (Value.containerCall name values)
          else Eval.fail (.undefined s!"{module}:{name}/{args.length}")
  | .map _ none es => return .dict (Dict.overwrite Dict.new (← Entry.meaningList es))
  | .map _ (some base) es => do
      let items ← Entry.meaningList es
      let v ← base.meaning
      Eval.lift (v.overwrite items)
  | .field _ (some base) name =>
      if base.isEmptyAtom then Eval.fail (.unsupported Kind.field.tag)
      else do Eval.lift ((← base.meaning).fetch name)
  | e => Eval.fail (.unsupported e.tag)

def Expr.meaningList : List Expr → Eval (List Value)
  | [] => return []
  | e :: rest => return (← e.meaning) :: (← Expr.meaningList rest)

def Expr.meaningBody (last : Value) : List Expr → Eval Value
  | [] => return last
  | e :: rest => do
      let v ← e.meaning
      Expr.meaningBody v rest

/-- The entries in order with their values, which are evaluated from the last one to the first. -/
def Entry.meaningList : List Entry → Eval (List (String × Value))
  | [] => return []
  | ⟨_, key, e⟩ :: rest => do
      let items ← Entry.meaningList rest
      let v ← e.meaning
      return (key, v) :: items

end

/-! ## Callees -/

namespace Container

/-- A chain of stores is a call, unless it is empty. -/
theorem head_storeAll (base : Expr) (es : List Entry) :
    (storeAll base es).head = if es.isEmpty then base.head else .call := by
  induction es generalizing base with
  | nil => rfl
  | cons e es ih =>
      show (storeAll (store base e) es).head = _
      rw [ih]
      cases es <;> rfl

end Container

namespace Expr

theorem peel_ne_update (e : Expr) (l : Loc) (base : Expr) : e.peel ≠ .map l (some base) [] := by
  fun_induction peel with
  | case1 _ base ih => exact ih
  | case2 e other => exact other l base

theorem desugar_peel {e e' : Expr} (h : e.desugar .body = .ok e') :
    e.peel.desugar .body = .ok e' := by
  fun_induction peel with
  | case1 l base ih =>
      apply ih
      cases run : base.desugar .body with
      | error r => simp [desugar, desugarOpt, run] at h
      | ok b => simpa [desugar, desugarOpt, Entry.desugarList, run, Container.storeAll] using h
  | case2 e other => exact h

/-- Other than an update without entries, sugar becomes calls and all else keeps its head. -/
theorem head_desugar {e e' : Expr} (h : e.desugar .body = .ok e')
    (filled : ∀ l base, e ≠ .map l (some base) []) :
    e'.head = e.head ∨ e.head.isSugar = true ∧ e'.head = .call := by
  cases sugar : Site.isSugar ⟨.body, .expr e⟩ with
  | false => exact Or.inl (congrArg NodeLabel.head (kept_of_desugar h sugar).1)
  | true =>
      right
      obtain ⟨-, cs, below, assembled⟩ := Site.desugar_ok (Site.desugar_expr h)
      cases assembled with
      | kept plain => rw [sugar] at plain; cases plain
      | literal =>
          refine ⟨rfl, ?_⟩
          rw [Container.head_storeAll]
          split <;> rfl
      | @update l b b' es es' =>
          -- An update with entries has a store for its last one on the outside.
          refine ⟨rfl, ?_⟩
          rcases es with _ | ⟨e, es⟩
          · exact absurd rfl (filled l b)
          · rcases es' with _ | ⟨e', es'⟩
            · have length := below.length_eq
              simp [Site.children, Site.belowExpr, Site.each] at length
            · rw [Container.head_storeAll]
              rfl
      | access => exact ⟨rfl, rfl⟩

theorem atomName?_eq (e : Expr) :
    e.atomName? = match e.head with | .lit (.atom name) => some name | _ => none := by
  cases e with
  | lit l v => cases v <;> rfl
  | _ => rfl

theorem atomName?_desugar {e e' : Expr} (h : e.desugar .body = .ok e') :
    e'.atomName? = e.peel.atomName? := by
  rcases head_desugar (desugar_peel h) (peel_ne_update e) with head | ⟨sugar, head⟩
  · rw [atomName?_eq, head, ← atomName?_eq]
  · rw [atomName?_eq, head, atomName?_eq]
    cases hp : e.peel.head <;> simp [hp, NodeHead.isSugar] at sugar ⊢

theorem remoteName?_of_head_ne {e : Expr} (h : e.head ≠ .remote) : e.remoteName? = none := by
  cases e with
  | remote => exact absurd rfl h
  | _ => rfl

/-- A call has the callee that its meaning says. -/
theorem remoteName?_desugar {f f' : Expr} (h : f.desugar .body = .ok f') :
    f'.remoteName? = f.calleeName? := by
  have peeled := desugar_peel h
  have head := head_desugar peeled (peel_ne_update f)
  rw [calleeName?]
  cases hf : f.peel with
  | remote l m n =>
      simp only [hf, desugar, Desugared.within_eq_ok, Except.bind_eq_ok, Except.pure_eq_ok,
        Except.ok.injEq] at peeled
      obtain ⟨m', hm, n', hn, rfl⟩ := peeled
      cases module : m.peel.atomName? <;> cases name : n.peel.atomName? <;>
        simp only [remoteName?, atomName?_desugar hm, atomName?_desugar hn, module, name]
  | _ =>
      apply remoteName?_of_head_ne
      rw [hf] at head
      intro remote
      rcases head with head | ⟨-, head⟩ <;> rw [head] at remote <;> cases remote

end Expr

/-! ## Preservation -/

namespace Expr

theorem eval_bind (l : Loc) (p e : Expr) : (Expr.bind l p e).eval = e.eval >>= p.matchValue := rfl

theorem matchValue_eq (p : Expr) (v : Value) :
    p.matchValue v =
      match p.head with
      | .var name => Eval.assign name v
      | _ => Eval.fail (.unsupported p.tag) := by
  cases p <;> rfl

/-- A desugared pattern matches like the pattern that it was. -/
theorem matchValue_desugar {p p' : Expr} (h : p.desugar .pattern = .ok p') :
    p'.matchValue = p.matchValue := by
  obtain ⟨label, tag⟩ := kept_of_desugar h (Site.isSugar_eq_false (by simp))
  have head : p'.head = p.head := congrArg NodeLabel.head label
  funext v
  rw [matchValue_eq, head, tag, ← matchValue_eq]

/-- Expressions that are neither evaluated nor sugar. -/
def isInert (e : Expr) : Bool :=
  match e.head with
  | .lit _ | .var _ | .tuple | .cons | .binOp _ | .unOp _ | .call | .block | .bind => false
  | head => !head.isSugar

theorem eval_of_isInert {e : Expr} (h : e.isInert = true) :
    e.eval = Eval.fail (.unsupported e.tag) := by
  cases e <;> first | rfl | cases h

theorem meaning_of_isInert {e : Expr} (h : e.isInert = true) :
    e.meaning = Eval.fail (.unsupported e.tag) := by
  cases e <;> first | rfl | cases h

theorem eval_desugar_of_isInert {e e' : Expr} (h : e.desugar .body = .ok e')
    (inert : e.isInert = true) : e'.eval = e.meaning := by
  have plain : Site.isSugar ⟨.body, .expr e⟩ = false := by
    cases e <;> first | rfl | cases inert
  obtain ⟨label, tag⟩ := kept_of_desugar h plain
  have head : e'.head = e.head := congrArg NodeLabel.head label
  have inert' : e'.isInert = true := by rwa [isInert, head]
  rw [eval_of_isInert inert', meaning_of_isInert inert, tag]

end Expr

mutual

/-- Evaluating a desugared expression computes the meaning of the expression. -/
theorem Expr.eval_desugar (e : Expr) {e' : Expr} (h : e.desugar .body = .ok e') :
    e'.eval = e.meaning := by
  cases e with
  | lit l v | var l v =>
      cases h
      rfl
  | tuple l es =>
      simp only [Expr.desugar, Desugared.within_eq_ok, Except.bind_eq_ok, Except.pure_eq_ok,
        Except.ok.injEq] at h
      obtain ⟨es', hes, rfl⟩ := h
      rw [Expr.eval, Expr.meaning, Expr.evalList_desugar es hes]
  | cons l a b | binOp l op a b =>
      simp only [Expr.desugar, Desugared.within_eq_ok, Except.bind_eq_ok, Except.pure_eq_ok,
        Except.ok.injEq] at h
      obtain ⟨a', ha, b', hb, rfl⟩ := h
      rw [Expr.eval, Expr.meaning, Expr.eval_desugar a ha, Expr.eval_desugar b hb]
  | unOp l op a =>
      simp only [Expr.desugar, Desugared.within_eq_ok, Except.bind_eq_ok, Except.pure_eq_ok,
        Except.ok.injEq] at h
      obtain ⟨a', ha, rfl⟩ := h
      rw [Expr.eval, Expr.meaning, Expr.eval_desugar a ha]
  | block l es =>
      simp only [Expr.desugar, Desugared.within_eq_ok, Except.bind_eq_ok, Except.pure_eq_ok,
        Except.ok.injEq] at h
      obtain ⟨es', hes, rfl⟩ := h
      rw [Expr.eval, Expr.meaning, Expr.evalBody_desugar _ es hes]
  | bind l p a =>
      simp only [Expr.desugar, Desugared.within_eq_ok, Except.bind_eq_ok, Except.pure_eq_ok,
        Except.ok.injEq] at h
      obtain ⟨p', hp, a', ha, rfl⟩ := h
      rw [Expr.eval_bind, Expr.meaning, Expr.eval_desugar a ha, Expr.matchValue_desugar hp]
  | call l f args =>
      simp only [Expr.desugar, Desugared.within_eq_ok, Except.bind_eq_ok, Except.pure_eq_ok,
        Except.ok.injEq] at h
      obtain ⟨f', hf, args', hargs, rfl⟩ := h
      cases name : f.calleeName? <;>
        simp only [Expr.eval, Expr.meaning, Expr.remoteName?_desugar hf, name,
          Expr.evalList_desugar args hargs, Expr.length_desugarList hargs]
  | map l base es =>
      simp only [Expr.desugar, Desugared.within_eq_ok, Except.bind_eq_ok, Except.pure_eq_ok,
        if_true, Except.ok.injEq] at h
      obtain ⟨base', hbase, es', hes, rfl⟩ := h
      rw [Entry.eval_storeAll es hes]
      rcases base with _ | b
      · cases hbase
        rw [Option.getD_none, eval_new, Expr.meaning]
        simp only [pure_bind, Value.overwrite_dict, Eval.lift_ok]
      · simp only [Expr.desugarOpt, Except.bind_eq_ok, Except.pure_eq_ok, Except.ok.injEq]
          at hbase
        obtain ⟨b', hb, rfl⟩ := hbase
        rw [Option.getD_some, Expr.eval_desugar b hb, Expr.meaning]
  | field l base name =>
      rcases base with _ | b
      · cases h
      · cases root : b.isEmptyAtom with
        | true =>
            simp only [Expr.desugar, Desugared.within_eq_ok, Except.bind_eq_ok,
              Except.pure_eq_ok, root, if_true, Except.ok.injEq] at h
            obtain ⟨b', hb, rfl⟩ := h
            rw [Expr.meaning, if_pos root]
            rfl
        | false =>
            simp only [Expr.desugar, Desugared.within_eq_ok, Except.bind_eq_ok,
              Except.pure_eq_ok, root, Bool.false_eq_true, if_false, Except.ok.injEq] at h
            obtain ⟨b', hb, rfl⟩ := h
            rw [eval_fetch, Expr.eval_desugar b hb, Expr.meaning, root]
            rfl
  | _ => exact Expr.eval_desugar_of_isInert h rfl
termination_by structural e

theorem Expr.evalList_desugar (es : List Expr) {es' : List Expr}
    (h : Expr.desugarList .body es = .ok es') : Expr.evalList es' = Expr.meaningList es := by
  cases es with
  | nil =>
      cases h
      rfl
  | cons e es =>
      simp only [Expr.desugarList, Except.bind_eq_ok, Except.pure_eq_ok, Except.ok.injEq] at h
      obtain ⟨e', he, es', hes, rfl⟩ := h
      rw [Expr.evalList, Expr.meaningList, Expr.eval_desugar e he, Expr.evalList_desugar es hes]
termination_by structural es

theorem Expr.evalBody_desugar (last : Value) (es : List Expr) {es' : List Expr}
    (h : Expr.desugarList .body es = .ok es') :
    Expr.evalBody last es' = Expr.meaningBody last es := by
  cases es with
  | nil =>
      cases h
      rfl
  | cons e es =>
      simp only [Expr.desugarList, Except.bind_eq_ok, Except.pure_eq_ok, Except.ok.injEq] at h
      obtain ⟨e', he, es', hes, rfl⟩ := h
      rw [Expr.evalBody, Expr.meaningBody, Expr.eval_desugar e he]
      congr 1
      funext v
      exact Expr.evalBody_desugar v es hes
termination_by structural es

/-- A chain of stores evaluates the entries, then the container, and overwrites it with all of
them. -/
theorem Entry.eval_storeAll (es : List Entry) {es' : List Entry}
    (h : Entry.desugarList .body es = .ok es') (container : Expr) :
    (Container.storeAll container es').eval = (do
      let items ← Entry.meaningList es
      let v ← container.eval
      Eval.lift (v.overwrite items)) := by
  cases es with
  | nil =>
      cases h
      simp only [Container.storeAll, List.foldl_nil, Entry.meaningList, pure_bind,
        Value.overwrite, Eval.lift_ok, bind_pure]
  | cons e es =>
      obtain ⟨l, key, e⟩ := e
      simp only [Entry.desugarList, Except.bind_eq_ok, Except.pure_eq_ok, Except.ok.injEq] at h
      obtain ⟨e', he, es', hes, rfl⟩ := h
      -- The first entry is stored innermost, so it joins the container of all others.
      show (Container.storeAll (Container.store container ⟨l, key, e'⟩) es').eval = _
      rw [Entry.eval_storeAll es hes, Entry.meaningList, eval_store, Expr.eval_desugar e he]
      simp only [bind_assoc, pure_bind, Value.overwrite_cons, Eval.lift_bind]
termination_by structural es

end

/-- Without sugar the meaning is evaluation. -/
theorem Expr.meaning_eq_eval {e : Expr} (h : Site.IsNormal ⟨.body, .expr e⟩) :
    e.meaning = e.eval := by
  have fixed : e.desugar .body = .ok e :=
    Site.isFixed_expr.mp ((Site.isFixed_iff_isNormal _).mpr h)
  exact (Expr.eval_desugar e fixed).symm

/-- An update without entries means its base, whatever that is. -/
theorem Expr.meaning_update_nil (l : Loc) (base : Expr) :
    (Expr.map l (some base) []).meaning = base.meaning := by
  rw [Expr.meaning, Entry.meaningList]
  simp only [pure_bind, Value.overwrite, Eval.lift_ok, bind_pure]

/-- Desugaring preserves meaning: from every environment, the desugared expression evaluates to the
value or the error that the expression means, and leaves the same environment. The meaning differs
from evaluation on sugar only, it inspects callees as they are desugared, and in an aggregate it
gives each key the value of its last entry and leaves every other key of the base alone. -/
theorem desugar_preserves_meaning :
    (∀ e e' : Expr, e.desugar .body = .ok e' → ∀ env, e'.eval env = e.meaning env) ∧
    (∀ e : Expr, Site.IsNormal ⟨.body, .expr e⟩ → e.meaning = e.eval) ∧
    (∀ f f' : Expr, f.desugar .body = .ok f' → f.calleeName? = f'.remoteName?) ∧
    (∀ (l : Loc) (base : Expr), (Expr.map l (some base) []).meaning = base.meaning) ∧
    ∀ (d : Dict) (items : List (String × Value)) (k : String),
      Dict.fetch? k (Dict.overwrite d items) = (items.reverse.lookup k).or (Dict.fetch? k d) := by
  refine ⟨?_, ?_, ?_, Expr.meaning_update_nil, Dict.fetch?_overwrite⟩
  · intro e e' h env
    rw [Expr.eval_desugar e h]
  · intro e normal
    exact Expr.meaning_eq_eval normal
  · intro f f' h
    exact (Expr.remoteName?_desugar h).symm

/-- The entries of an update are evaluated from the last one to the first, so that the value of `a`
sees the binding of `X`, and the field reads what was stored over the base. An update without
entries does not hide the module of a callee. -/
theorem desugar_preserves_meaning_update :
    let l := Loc.onLine 1
    let base : Expr := .map l none [⟨l, "a", .lit l (.integer 2)⟩]
    let update : Expr := .map l (some base)
      [⟨l, "a", .var l "X"⟩, ⟨l, "b", .bind l (.var l "X") (.lit l (.integer 1))⟩]
    let callee : Expr :=
      .remote l (.map l (some (.lit l (.atom "orddict"))) []) (.lit l (.atom "new"))
    (∃ e', (Expr.field l (some update) "a").desugar .body = .ok e' ∧
      e'.eval [] = (.ok (.integer 1), [("X", .integer 1)])) ∧
    (Expr.var l "X").meaning = (Expr.var l "X").eval ∧
    ∃ f', callee.desugar .body = .ok f' ∧ f'.remoteName? = some ("orddict", "new") := by
  intro l base update callee
  obtain ⟨preserved, plain, callees, -⟩ := desugar_preserves_meaning
  have value : (Expr.field l (some update) "a").meaning [] =
      (.ok (.integer 1), [("X", .integer 1)]) := rfl
  refine ⟨⟨_, rfl, ?_⟩, ?_, _, rfl, ?_⟩
  · rw [preserved (.field l (some update) "a") _ rfl, value]
  · apply plain
    rw [Site.isNormal_iff]
    simp [Site.isOffence, Site.isSugar, Site.children, Site.belowExpr]
  · exact (callees callee _ rfl).symm

end Unsugar
