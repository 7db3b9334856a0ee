import Unsugar.Proofs.Eval.Frame

/-!
# The order of dictionaries and environments

Dictionaries stand inside values, and values inside the lists that dictionaries are, so that the
type of values cannot hold a proof that the keys ascend. It is an invariant instead: every
dictionary that evaluation makes comes from the new one by stores, which keep the order, and an
environment grows by insertion alone.

Main statement: evaluations one after the other lead from an environment in order to such an
environment, and yield nothing but values in order (`isOrdered_envAfter`, `isOrdered_of_eval`).
-/

namespace Unsugar

/-- Every dictionary in the value ascends by key, at any depth. -/
inductive Value.IsOrdered : Value → Prop
  | atom (name : String) : IsOrdered (.atom name)
  | integer (n : Int64) : IsOrdered (.integer n)
  | float (x : Float) : IsOrdered (.float x)
  | str (s : String) : IsOrdered (.str s)
  | tuple {items : List Value} (h : ∀ v ∈ items, IsOrdered v) : IsOrdered (.tuple items)
  | list {items : List Value} (h : ∀ v ∈ items, IsOrdered v) : IsOrdered (.list items)
  | dict {d : Dict} (sorted : Assoc.Sorted d) (h : ∀ item ∈ d, IsOrdered item.2) :
      IsOrdered (.dict d)

/-- The bindings ascend by name, and all values are in order. -/
structure Env.IsOrdered (env : Env) : Prop where
  sorted : Assoc.Sorted env
  values : ∀ item ∈ env, item.2.IsOrdered

theorem Env.IsOrdered.insert {env : Env} {name : String} {v : Value} (h : env.IsOrdered)
    (hv : v.IsOrdered) : Env.IsOrdered (Assoc.insert name v env) := by
  refine ⟨h.sorted.insert, fun item hitem => ?_⟩
  rcases Assoc.mem_insert hitem with rfl | hitem
  · exact hv
  · exact h.values item hitem

/-! ## Operations on values -/

namespace Value

theorem isOrdered_ofLiteral (v : Literal) : (ofLiteral v).IsOrdered := by
  cases v with
  | atom name => exact .atom name
  | integer n => exact .integer n
  | float x => exact .float x
  | char c => exact .integer _
  | str s => exact .str s
  | nil => exact .list (by simp)

theorem isOrdered_cons {head tail v : Value} (hh : head.IsOrdered) (ht : tail.IsOrdered)
    (run : head.cons tail = .ok v) : v.IsOrdered := by
  cases ht with
  | list items =>
      cases run
      exact .list (List.forall_mem_cons.mpr ⟨hh, items⟩)
  | _ => cases run

/-- An operator yields numbers. -/
def IsNumber (v : Value) : Prop := (∃ n, v = .integer n) ∨ ∃ x, v = .float x

theorem IsNumber.isOrdered {v : Value} (h : v.IsNumber) : v.IsOrdered := by
  rcases h with ⟨n, rfl⟩ | ⟨x, rfl⟩
  · exact .integer n
  · exact .float x

theorem isNumber_unary {op : String} {a v : Value} (run : unary op a = .ok v) : v.IsNumber := by
  unfold unary at run
  split at run <;> cases run
  · exact .inl ⟨_, rfl⟩
  · exact .inr ⟨_, rfl⟩
  · exact .inl ⟨_, rfl⟩
  · exact .inr ⟨_, rfl⟩

theorem isNumber_integerOp {op : String} {m n : Int64} {v : Value}
    (run : integerOp op m n = some (.ok v)) : v.IsNumber := by
  unfold integerOp at run
  dsimp only at run
  split at run
  case h_6 => cases run
  case h_4 | h_5 =>
    split at run
    · cases run
      exact .inl ⟨_, rfl⟩
    · cases run
  all_goals
    cases run
    exact .inl ⟨_, rfl⟩

theorem isNumber_floatOp {op : String} {x y : Float} {v : Value} (run : floatOp op x y = .ok v) :
    v.IsNumber := by
  unfold floatOp at run
  split at run
  case h_5 => cases run
  case h_4 =>
    split at run
    · cases run
    · cases run
      exact .inr ⟨_, rfl⟩
  all_goals
    cases run
    exact .inr ⟨_, rfl⟩

theorem isNumber_mixedOp {op : String} {a b v : Value} (run : mixedOp op a b = .ok v) :
    v.IsNumber := by
  unfold mixedOp at run
  split at run
  · exact isNumber_floatOp run
  · cases run

theorem isNumber_binary {op : String} {a b v : Value} (run : binary op a b = .ok v) :
    v.IsNumber := by
  unfold binary at run
  split at run
  · next m n =>
      cases known : integerOp op m n with
      | some r =>
          rw [known, Option.getD_some] at run
          subst run
          exact isNumber_integerOp known
      | none =>
          rw [known, Option.getD_none] at run
          exact isNumber_mixedOp run
  · exact isNumber_mixedOp run

theorem isOrdered_containerCall {function : String} {args : List Value} {v : Value}
    (h : ∀ a ∈ args, a.IsOrdered) (run : containerCall function args = .ok v) : v.IsOrdered := by
  unfold containerCall at run
  dsimp only at run
  split at run
  · cases run
    exact .dict .nil (by simp [Dict.new])
  · next key value d =>
      simp only [List.forall_mem_cons] at h
      obtain ⟨-, value, container, -⟩ := h
      cases run
      cases container with
      | dict sorted items =>
          refine .dict sorted.insert fun item hitem => ?_
          rcases Assoc.mem_insert hitem with rfl | hitem
          · exact value
          · exact items item hitem
  · next key d =>
      simp only [List.forall_mem_cons] at h
      obtain ⟨-, container, -⟩ := h
      cases found : Dict.fetch? key d with
      | none => simp [found] at run
      | some w =>
          simp only [found] at run
          cases run
          cases container with
          | dict _ items => exact items (key, v) (Assoc.mem_of_lookup found)
  all_goals cases run

end Value

/-! ## Evaluations that keep the order -/

namespace Eval

/-- An evaluation that keeps an environment in order and yields what is good. -/
def KeepsOrder {α : Type} (good : α → Prop) (x : Eval α) : Prop :=
  ∀ env : Env, env.IsOrdered → (x env).2.IsOrdered ∧ ∀ a, (x env).1 = .ok a → good a

namespace KeepsOrder

variable {α β : Type} {good : α → Prop} {good' : β → Prop}

theorem lift {r : Except EvalError α} (h : ∀ a, r = .ok a → good a) :
    KeepsOrder good (Eval.lift r) :=
  fun _ ordered => ⟨ordered, h⟩

theorem pure {a : α} (h : good a) : KeepsOrder good (Pure.pure a) := by
  apply lift (r := .ok a)
  rintro _ ⟨⟩
  exact h

theorem fail (e : EvalError) : KeepsOrder good (Eval.fail e) := by
  apply lift (r := .error e)
  rintro _ ⟨⟩

theorem bind {x : Eval α} {f : α → Eval β} (first : KeepsOrder good x)
    (next : ∀ a, good a → KeepsOrder good' (f a)) : KeepsOrder good' (x >>= f) := by
  intro env ordered
  obtain ⟨ordered', yields⟩ := first env ordered
  rcases run : x env with ⟨_ | a, env'⟩ <;> rw [run] at ordered' yields
  · rw [bind_error run]
    exact ⟨ordered', by simp⟩
  · rw [bind_ok run]
    exact next a (yields a rfl) env' ordered'

theorem lookup (name : String) : KeepsOrder Value.IsOrdered (Eval.lookup name) := by
  intro env ordered
  refine ⟨(snd_lookup name env).symm ▸ ordered, fun v run => ?_⟩
  unfold Eval.lookup at run
  split at run
  · next bound =>
      cases run
      exact ordered.values (name, v) (Assoc.mem_of_lookup bound)
  · cases run

theorem assign (name : String) {v : Value} (hv : v.IsOrdered) :
    KeepsOrder Value.IsOrdered (Eval.assign name v) := by
  intro env ordered
  constructor
  · rw [snd_assign]
    split
    · exact ordered.insert hv
    · exact ordered
  · -- What a match yields is what it was given.
    intro w run
    unfold Eval.assign at run
    split at run
    · cases run
      exact hv
    · split at run
      · split at run <;> cases run
        exact hv
      · cases run
        exact hv

end KeepsOrder

end Eval

/-! ## Expressions -/

namespace Expr

open Eval

theorem keepsOrder_evalList {es : List Expr} (h : ∀ e ∈ es, KeepsOrder Value.IsOrdered e.eval) :
    KeepsOrder (fun vs => ∀ v ∈ vs, v.IsOrdered) (evalList es) := by
  induction es with
  | nil => exact .pure (by simp)
  | cons e es ih =>
      obtain ⟨head, tail⟩ := List.forall_mem_cons.mp h
      rw [evalList]
      refine head.bind fun v hv => (ih tail).bind fun vs hvs => .pure ?_
      exact List.forall_mem_cons.mpr ⟨hv, hvs⟩

theorem keepsOrder_evalBody {es : List Expr} (h : ∀ e ∈ es, KeepsOrder Value.IsOrdered e.eval)
    {last : Value} (ordered : last.IsOrdered) : KeepsOrder Value.IsOrdered (evalBody last es) := by
  induction es generalizing last with
  | nil => exact .pure ordered
  | cons e es ih =>
      obtain ⟨head, tail⟩ := List.forall_mem_cons.mp h
      rw [evalBody]
      exact head.bind fun v hv => ih tail hv

/-- No evaluation leaves the order. The induction is on the size of the expression. -/
theorem keepsOrder_eval (e : Expr) : KeepsOrder Value.IsOrdered e.eval := by
  have below : ∀ a : Expr, ⟨.body, .expr a⟩ ∈ Site.belowExpr .body e →
      KeepsOrder Value.IsOrdered a.eval := fun a child => keepsOrder_eval a
  cases e with
  | lit l v =>
      rw [eval]
      exact .pure (Value.isOrdered_ofLiteral v)
  | var l name =>
      rw [eval]
      exact .lookup name
  | tuple l es =>
      rw [eval]
      refine (keepsOrder_evalList ?_).bind fun vs hvs => .pure (.tuple hvs)
      intro a ha
      exact below a (Site.mem_each.mpr ⟨a, ha, rfl⟩)
  | cons l h t =>
      rw [eval]
      refine (below h ?_).bind fun head hh => (below t ?_).bind fun tail ht => .lift fun v => ?_
      · simp [Site.belowExpr, Site.each]
      · simp [Site.belowExpr, Site.each]
      · exact Value.isOrdered_cons hh ht
  | binOp l op a b =>
      rw [eval]
      refine (below a ?_).bind fun m _ => (below b ?_).bind fun n _ => .lift fun v run => ?_
      · simp [Site.belowExpr, Site.each]
      · simp [Site.belowExpr, Site.each]
      · exact (Value.isNumber_binary run).isOrdered
  | unOp l op a =>
      rw [eval]
      refine (below a ?_).bind fun m _ => .lift fun v run => ?_
      · simp [Site.belowExpr, Site.each]
      · exact (Value.isNumber_unary run).isOrdered
  | block l es =>
      rw [eval]
      refine keepsOrder_evalBody ?_ (.atom "ok")
      intro a ha
      exact below a (Site.mem_each.mpr ⟨a, ha, rfl⟩)
  | bind l p a =>
      rw [eval]
      have value := below a (by simp [Site.belowExpr])
      refine value.bind fun v hv => ?_
      cases p with
      | var l' name => exact .assign name hv
      | _ => exact .fail _
  | call l f args =>
      rw [eval]
      split
      · exact .fail _
      · split
        · refine (keepsOrder_evalList ?_).bind fun vs hvs => .lift fun v => ?_
          · intro a ha
            exact below a (Site.mem_each.mpr ⟨a, List.mem_cons_of_mem _ ha, rfl⟩)
          · exact Value.isOrdered_containerCall hvs
        · exact .fail _
  | _ => exact .fail _
termination_by sizeOf e
decreasing_by
  exact Site.size_lt_of_mem_belowExpr _ e _ child

/-- A value that is yielded in an environment in order is in order. -/
theorem isOrdered_of_eval {e : Expr} {env : Env} {v : Value} (ordered : env.IsOrdered)
    (run : (e.eval env).1 = .ok v) : v.IsOrdered :=
  (e.keepsOrder_eval env ordered).2 v run

theorem isOrdered_envAfter (es : List Expr) {env : Env} (ordered : env.IsOrdered) :
    (envAfter es env).IsOrdered := by
  induction es generalizing env with
  | nil => exact ordered
  | cons e es ih => exact ih (e.keepsOrder_eval env ordered).1

end Expr

end Unsugar
