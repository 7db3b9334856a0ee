import Unsugar.Proofs.Desugar.Nodes
import Unsugar.Proofs.Eval.Frame

/-!
# Repeated evaluation

A second evaluation meets the bindings of the first one, so every match that bound a variable now
compares values instead. The comparison succeeds because equal values compare as equal, which is
true of all values but floats. Floats come from literals, from the environment and from the operator
`/` alone; without these three, evaluation yields the same value again in every larger environment.

Both facts are one property of an evaluation (`Eval.Repeats`), which sequencing keeps: what it does
the second time, and that no float turns up the first time.

Main statement: `evaluation_repeats`.
-/

namespace Unsugar

/-! ## Values without floats -/

/-- No float stands in the value, at any depth. -/
inductive Value.FloatFree : Value → Prop
  | atom (name : String) : FloatFree (.atom name)
  | integer (n : Int64) : FloatFree (.integer n)
  | str (s : String) : FloatFree (.str s)
  | tuple {items : List Value} (h : ∀ v ∈ items, FloatFree v) : FloatFree (.tuple items)
  | list {items : List Value} (h : ∀ v ∈ items, FloatFree v) : FloatFree (.list items)
  | dict {d : Dict} (h : ∀ item ∈ d, FloatFree item.2) : FloatFree (.dict d)

namespace Value

theorem sameItems_self {items : List Value} (h : ∀ v ∈ items, v.same v = true) :
    sameItems items items = true := by
  induction items with
  | nil => rfl
  | cons v rest ih =>
      obtain ⟨head, tail⟩ := List.forall_mem_cons.mp h
      rw [sameItems, head, ih tail]
      rfl

theorem sameEntries_self {d : Dict} (h : ∀ item ∈ d, item.2.same item.2 = true) :
    sameEntries d d = true := by
  induction d with
  | nil => rfl
  | cons item rest ih =>
      obtain ⟨head, tail⟩ := List.forall_mem_cons.mp h
      simp only [sameEntries, head, ih tail, decide_true, Bool.and_self]

/-- A value without floats equals itself. -/
theorem FloatFree.same_self {v : Value} (h : v.FloatFree) : v.same v = true := by
  induction h with
  | atom | integer | str => simp [same]
  | tuple _ ih => rw [same, sameItems_self ih]
  | list _ ih => rw [same, sameItems_self ih]
  | dict _ ih => rw [same, sameEntries_self ih]

/-! ### Operations -/

theorem floatFree_ofLiteral {v : Literal} (h : ∀ x, v ≠ .float x) : (ofLiteral v).FloatFree := by
  cases v with
  | atom name => exact .atom name
  | integer n => exact .integer n
  | float x => exact absurd rfl (h x)
  | char c => exact .integer _
  | str s => exact .str s
  | nil => exact .list (by simp)

theorem floatFree_cons {head tail v : Value} (hh : head.FloatFree) (ht : tail.FloatFree)
    (run : head.cons tail = .ok v) : v.FloatFree := by
  cases ht with
  | list items =>
      cases run
      exact .list (List.forall_mem_cons.mpr ⟨hh, items⟩)
  | _ => cases run

theorem floatFree_unary {op : String} {a v : Value} (ha : a.FloatFree)
    (run : unary op a = .ok v) : v.FloatFree := by
  unfold unary at run
  split at run
  · cases run
    exact .integer _
  · cases ha
  · cases run
    exact .integer _
  · cases ha
  · cases run

theorem FloatFree.eq_integer {a : Value} {x : Float} (ha : a.FloatFree)
    (number : a.toFloat? = some x) : ∃ n, a = .integer n := by
  cases ha with
  | integer n => exact ⟨n, rfl⟩
  | _ => cases number

theorem integer_of_integerOp {op : String} {m n : Int64} {r : Except EvalError Value} {v : Value}
    (known : integerOp op m n = some r) (run : r = .ok v) : ∃ k, v = .integer k := by
  subst run
  unfold integerOp at known
  dsimp only at known
  split at known
  case h_6 => cases known
  case h_4 | h_5 =>
    split at known
    · cases known
      exact ⟨_, rfl⟩
    · cases known
  all_goals
    cases known
    exact ⟨_, rfl⟩

/-- Every operator on floats save division is one on integers. -/
theorem floatOp_of_integerOp_eq_none {op : String} {m n : Int64} (unknown : integerOp op m n = none)
    (division : op ≠ "/") (x y : Float) : floatOp op x y = .error (.badArg op) := by
  unfold integerOp at unknown
  dsimp only at unknown
  split at unknown
  case h_6 => simp [floatOp]
  all_goals cases unknown

/-- Without floats, the operands that count as floats are integers. -/
theorem integers_of_mixedOp {op : String} {a b v : Value} (ha : a.FloatFree) (hb : b.FloatFree)
    (run : mixedOp op a b = .ok v) : ∃ m n, a = .integer m ∧ b = .integer n := by
  unfold mixedOp at run
  split at run
  · next hx hy =>
      obtain ⟨m, rfl⟩ := ha.eq_integer hx
      obtain ⟨n, rfl⟩ := hb.eq_integer hy
      exact ⟨m, n, rfl, rfl⟩
  · cases run

theorem floatFree_binary {op : String} {a b v : Value} (division : op ≠ "/") (ha : a.FloatFree)
    (hb : b.FloatFree) (run : binary op a b = .ok v) : v.FloatFree := by
  unfold binary at run
  split at run
  · next m n =>
      cases known : integerOp op m n with
      | some r =>
          rw [known, Option.getD_some] at run
          obtain ⟨k, rfl⟩ := integer_of_integerOp known run
          exact .integer k
      | none =>
          rw [known, Option.getD_none, mixedOp, toFloat?, toFloat?] at run
          dsimp only at run
          rw [floatOp_of_integerOp_eq_none known division] at run
          cases run
  · next mixed =>
      obtain ⟨m, n, rfl, rfl⟩ := integers_of_mixedOp ha hb run
      exact absurd rfl (mixed m n rfl)

theorem floatFree_containerCall {function : String} {args : List Value} {v : Value}
    (h : ∀ a ∈ args, a.FloatFree) (run : containerCall function args = .ok v) : v.FloatFree := by
  unfold containerCall at run
  dsimp only at run
  split at run
  · cases run
    exact .dict (by simp [Dict.new])
  · next key value d =>
      simp only [List.forall_mem_cons] at h
      obtain ⟨-, value, container, -⟩ := h
      cases run
      cases container with
      | dict items =>
          refine .dict ?_
          intro item hitem
          rcases Assoc.mem_insert hitem with rfl | hitem
          · exact value
          · exact items item hitem
  · next key d =>
      simp only [List.forall_mem_cons] at h
      obtain ⟨-, container, -⟩ := h
      cases found : Dict.fetch? key d with
      | none => simp [found] at run
      | some w =>
          simp only [found] at run
          cases run
          cases container with
          | dict items => exact items (key, v) (Assoc.mem_of_lookup found)
  all_goals cases run

end Value

/-! ## Environments -/

namespace Env

/-- No variable is bound to a value with a float in it. -/
def FloatFree (env : Env) : Prop := ∀ name v, env.lookup name = some v → v.FloatFree

/-- All bindings of the smaller environment are there. -/
def Extends (larger smaller : Env) : Prop :=
  ∀ name v, smaller.lookup name = some v → larger.lookup name = some v

theorem Extends.refl (env : Env) : env.Extends env := by
  intro name v bound
  exact bound

theorem Extends.trans {env₁ env₂ env₃ : Env} (h : env₃.Extends env₂) (h' : env₂.Extends env₁) :
    env₃.Extends env₁ := by
  intro name v bound
  exact h name v (h' name v bound)

theorem FloatFree.insert {env : Env} {name : String} {v : Value} (h : env.FloatFree)
    (hv : v.FloatFree) : FloatFree (Assoc.insert name v env) := by
  intro other w bound
  rw [Assoc.lookup_insert] at bound
  split at bound
  · cases bound
    exact hv
  · exact h other w bound

end Env

/-! ## Evaluations that repeat -/

namespace Eval

/-- An evaluation that, begun without floats, meets none and keeps all bindings; and a value that it
yields is good, and is yielded again in every larger environment, which then stays as it is. -/
structure Repeats {α : Type} (good : α → Prop) (x : Eval α) : Prop where
  kept : ∀ env : Env, env.FloatFree → (x env).2.FloatFree ∧ (x env).2.Extends env
  again : ∀ (env : Env) (a : α) (env' : Env), env.FloatFree → x env = (.ok a, env') →
    good a ∧ ∀ later : Env, later.Extends env' → x later = (.ok a, later)

namespace Repeats

variable {α β : Type} {good : α → Prop} {good' : β → Prop}

theorem lift {r : Except EvalError α} (h : ∀ a, r = .ok a → good a) :
    Repeats good (Eval.lift r) := by
  constructor
  · intro env free
    exact ⟨free, .refl env⟩
  · intro env a env' _ run
    cases run
    refine ⟨h a rfl, ?_⟩
    intro later _
    rfl

theorem pure {a : α} (h : good a) : Repeats good (Pure.pure a) := by
  apply lift (r := .ok a)
  rintro _ ⟨⟩
  exact h

theorem fail (e : EvalError) : Repeats good (Eval.fail e) := by
  apply lift (r := .error e)
  rintro _ ⟨⟩

theorem bind {x : Eval α} {f : α → Eval β} (first : Repeats good x)
    (next : ∀ a, good a → Repeats good' (f a)) : Repeats good' (x >>= f) := by
  constructor
  · intro env free
    obtain ⟨free', extended⟩ := first.kept env free
    rcases run : x env with ⟨_ | a, env'⟩ <;> rw [run] at free' extended
    · rw [bind_error run]
      exact ⟨free', extended⟩
    · rw [bind_ok run]
      obtain ⟨free'', extended'⟩ := (next a (first.again env a env' free run).1).kept env' free'
      exact ⟨free'', extended'.trans extended⟩
  · intro env b env'' free run
    have free' := (first.kept env free).1
    rcases here : x env with ⟨_ | a, env'⟩ <;> rw [here] at free'
    · rw [bind_error here] at run
      cases run
    · rw [bind_ok here] at run
      obtain ⟨ha, again⟩ := first.again env a env' free here
      obtain ⟨hb, again'⟩ := (next a ha).again env' b env'' free' run
      refine ⟨hb, ?_⟩
      intro later extended
      -- What the second evaluation left extends what the first one left.
      have extended' := ((next a ha).kept env' free').2
      rw [run] at extended'
      rw [bind_ok (again later (extended.trans extended'))]
      exact again' later extended

theorem lookup (name : String) : Repeats Value.FloatFree (Eval.lookup name) := by
  constructor
  · intro env free
    rw [snd_lookup]
    exact ⟨free, .refl env⟩
  · intro env v env' free run
    unfold Eval.lookup at run
    split at run
    · next bound =>
        cases run
        refine ⟨free name v bound, ?_⟩
        intro later extended
        rw [Eval.lookup, extended name v bound]
    · cases run

/-- A match that bound its variable finds the same value the second time, and one that compared
compares the same two values. -/
theorem assign (name : String) {v : Value} (hv : v.FloatFree) :
    Repeats Value.FloatFree (Eval.assign name v) := by
  constructor
  · intro env free
    have framed : Framed (fun _ => True) (fun _ => True) (Eval.assign name v) :=
      .assign v trivial trivial
    refine ⟨?_, framed.kept env⟩
    rw [snd_assign]
    split
    · exact free.insert hv
    · exact free
  · intro env w env' free run
    unfold Eval.assign at run
    by_cases wildcard : name = "_"
    · rw [if_pos wildcard] at run
      cases run
      refine ⟨hv, ?_⟩
      intro later _
      rw [Eval.assign, if_pos wildcard]
    · rw [if_neg wildcard] at run
      have found : ∀ later : Env, ∀ bound, later.lookup name = some bound →
          bound.same v = true → Eval.assign name v later = (.ok v, later) := by
        intro later bound here same
        simp [Eval.assign, wildcard, here, same]
      split at run
      · next bound here =>
          split at run
          · next same =>
              cases run
              refine ⟨hv, ?_⟩
              intro later extended
              exact found later bound (extended name bound here) same
          · cases run
      · cases run
        refine ⟨hv, ?_⟩
        intro later extended
        refine found later v (extended name v ?_) hv.same_self
        rw [Assoc.lookup_insert, if_pos rfl]

end Repeats

end Eval

/-! ## Expressions -/

/-- A literal or an operator that yields floats out of nothing. -/
def NodeHead.makesFloats : NodeHead → Bool
  | .lit (.float _) => true
  | .binOp op => op = "/"
  | _ => false

def Site.makesFloats (s : Site) : Bool := s.part.label?.any (·.head.makesFloats)

/-- No float literal and no division stands in the expression. -/
def Expr.FloatFree (e : Expr) : Prop :=
  ∀ s ∈ Site.nodes ⟨.body, .expr e⟩, s.makesFloats = false

namespace Expr

open Eval

theorem repeats_evalList {es : List Expr} (h : ∀ e ∈ es, Repeats Value.FloatFree e.eval) :
    Repeats (fun vs => ∀ v ∈ vs, v.FloatFree) (evalList es) := by
  induction es with
  | nil => exact .pure (by simp)
  | cons e es ih =>
      obtain ⟨head, tail⟩ := List.forall_mem_cons.mp h
      rw [evalList]
      refine head.bind fun v hv => (ih tail).bind fun vs hvs => .pure ?_
      exact List.forall_mem_cons.mpr ⟨hv, hvs⟩

theorem repeats_evalBody {es : List Expr} (h : ∀ e ∈ es, Repeats Value.FloatFree e.eval)
    {last : Value} (free : last.FloatFree) : Repeats Value.FloatFree (evalBody last es) := by
  induction es generalizing last with
  | nil => exact .pure free
  | cons e es ih =>
      obtain ⟨head, tail⟩ := List.forall_mem_cons.mp h
      rw [evalBody]
      exact head.bind fun v hv => ih tail hv

theorem repeats_eval (e : Expr) (free : e.FloatFree) : Repeats Value.FloatFree e.eval := by
  obtain ⟨here, children⟩ := Site.forall_mem_nodes.mp free
  have below : ∀ a : Expr, ⟨.body, .expr a⟩ ∈ Site.belowExpr .body e →
      Repeats Value.FloatFree a.eval := by
    intro a child
    exact repeats_eval a (children _ child)
  cases e with
  | lit l v =>
      rw [eval]
      refine .pure (Value.floatFree_ofLiteral ?_)
      rintro x rfl
      cases here
  | var l name =>
      rw [eval]
      exact .lookup name
  | tuple l es =>
      rw [eval]
      refine (repeats_evalList ?_).bind fun vs hvs => .pure (.tuple hvs)
      intro a ha
      exact below a (Site.mem_each.mpr ⟨a, ha, rfl⟩)
  | cons l h t =>
      rw [eval]
      refine (below h ?_).bind fun head hh => (below t ?_).bind fun tail ht => .lift fun v => ?_
      · simp [Site.belowExpr, Site.each]
      · simp [Site.belowExpr, Site.each]
      · exact Value.floatFree_cons hh ht
  | binOp l op a b =>
      rw [eval]
      refine (below a ?_).bind fun m hm => (below b ?_).bind fun n hn => .lift fun v => ?_
      · simp [Site.belowExpr, Site.each]
      · simp [Site.belowExpr, Site.each]
      · exact Value.floatFree_binary (of_decide_eq_false here) hm hn
  | unOp l op a =>
      rw [eval]
      refine (below a ?_).bind fun m hm => .lift fun v => ?_
      · simp [Site.belowExpr, Site.each]
      · exact Value.floatFree_unary hm
  | block l es =>
      rw [eval]
      refine repeats_evalBody ?_ (.atom "ok")
      intro a ha
      exact below a (Site.mem_each.mpr ⟨a, ha, rfl⟩)
  | bind l p a =>
      rw [eval]
      have value := below a (by simp [Site.belowExpr])
      refine value.bind fun v hv => ?_
      cases p with
      | var l' name => exact .assign name hv
      | _ => exact .fail _
  | call l f args =>
      rw [eval]
      split
      · exact .fail _
      · split
        · refine (repeats_evalList ?_).bind fun vs hvs => .lift fun v => ?_
          · intro a ha
            exact below a (Site.mem_each.mpr ⟨a, List.mem_cons_of_mem _ ha, rfl⟩)
          · exact Value.floatFree_containerCall hvs
        · exact .fail _
  | _ => exact .fail _
termination_by sizeOf e
decreasing_by
  exact Site.size_lt_of_mem_belowExpr _ e _ child

/-- Desugaring adds calls of the container, and these make no floats. -/
theorem FloatFree.desugar {e e' : Expr} (free : e.FloatFree) (h : e.desugar .body = .ok e') :
    e'.FloatFree := by
  have calls : Site.HoldsInCalls fun s => s.makesFloats = false :=
    ⟨fun _ _ => rfl, fun _ _ _ => rfl, fun _ _ _ => rfl⟩
  refine Site.forall_mem_nodes_of_desugar calls ?_ _ free _ (Site.desugar_expr h)
  intro s t before label _ _
  rwa [Site.makesFloats, label]

end Expr

/-- Evaluation is stable. An expression that holds neither float literals nor divisions, and that has
a value in an environment without floats, has the same value in every environment that extends the
one it left, and leaves that environment as it is. So it may be evaluated again after any other
expressions were evaluated, failing ones included. Desugared code is such an expression whenever its
source is. -/
theorem evaluation_repeats :
    (∀ (e : Expr) (env env₁ : Env) (v : Value), e.FloatFree → env.FloatFree →
      e.eval env = (.ok v, env₁) →
        ∀ env₂ : Env, env₂.Extends env₁ → e.eval env₂ = (.ok v, env₂)) ∧
    (∀ (e : Expr) (env env₁ : Env) (v : Value), e.FloatFree → env.FloatFree →
      e.eval env = (.ok v, env₁) → ∀ es : List Expr,
        e.eval (Expr.envAfter es env₁) = (.ok v, Expr.envAfter es env₁)) ∧
    ∀ e e' : Expr, e.FloatFree → e.desugar .body = .ok e' → e'.FloatFree := by
  have again (e : Expr) (env env₁ : Env) (v : Value) (free : e.FloatFree) (start : env.FloatFree)
      (run : e.eval env = (.ok v, env₁)) :
      ∀ env₂ : Env, env₂.Extends env₁ → e.eval env₂ = (.ok v, env₂) :=
    ((e.repeats_eval free).again env v env₁ start run).2
  refine ⟨again, ?_, ?_⟩
  · intro e env env₁ v free start run es
    apply again e env env₁ v free start run
    intro name w bound
    exact Expr.lookup_envAfter bound
  · intro e e' free h
    exact free.desugar h

/-- The first evaluation binds `X`, the second one compares it; in between, another match of `X` may
fail. -/
theorem evaluation_repeats_fetch :
    let l := Loc.onLine 1
    let sum : Expr := .binOp l "+" (.var l "Y") (.lit l (.integer 1))
    let source : Expr := .field l (some (.bind l (.var l "X") (.map l none [⟨l, "k", sum⟩]))) "k"
    let code := Container.fetch l "k"
      (.bind l (.var l "X") (Container.store (Container.new l) ⟨l, "k", sum⟩))
    let failing : Expr := .bind l (.var l "X") (.lit l .nil)
    let env : Env := [("Y", .integer 2)]
    let env₁ : Env := [("X", .dict [("k", .integer 3)]), ("Y", .integer 2)]
    let env₂ : Env := env₁ ++ [("Z", .list [])]
    (source.FloatFree ∧ source.desugar .body = .ok code ∧ code.FloatFree) ∧
    env.FloatFree ∧ code.eval env = (.ok (.integer 3), env₁) ∧
    env₂.Extends env₁ ∧ code.eval env₂ = (.ok (.integer 3), env₂) ∧
    (failing.eval env₁).1 = .error (.badMatch "[]") ∧
    code.eval (Expr.envAfter [failing] env₁) = (.ok (.integer 3), env₁) := by
  intro l sum source code failing env env₁ env₂
  obtain ⟨again, afterOthers, desugared⟩ := evaluation_repeats
  have free : source.FloatFree := by
    unfold Expr.FloatFree
    simp [source, sum, Site.nodes_eq, Site.children, Site.belowExpr, Site.each, Site.makesFloats,
      Part.label?, Expr.label, Expr.head, Entry.label, NodeHead.makesFloats]
  have code_free : code.FloatFree := desugared source code free rfl
  have start : env.FloatFree := by
    intro name v bound
    have only : (name, v) ∈ env := Assoc.mem_of_lookup bound
    cases List.mem_singleton.mp only
    exact .integer 2
  have run : code.eval env = (.ok (.integer 3), env₁) := rfl
  have larger : env₂.Extends env₁ := by
    intro name v bound
    rw [List.lookup_append, bound, Option.some_or]
  exact ⟨⟨free, rfl, code_free⟩, start, run, larger, again _ _ _ _ code_free start run _ larger, rfl,
    afterOthers _ _ _ _ code_free start run [failing]⟩

end Unsugar
