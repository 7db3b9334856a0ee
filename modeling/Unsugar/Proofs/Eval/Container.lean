import Unsugar.Eval.Basic
import Mathlib.Data.List.Basic

/-!
# Container calls at run time

What the calls that desugaring builds compute. Every call evaluates its arguments before it looks
at them, so a chain of stores evaluates the value of the outermost one first and its container last,
and only then finds out whether the container is a dictionary.

Main statements: each builder is evaluated as one operation on values (`eval_new`, `eval_store`,
`eval_fetch`), and after storing entries in order a key has the value of its last entry
(`fetch?_overwrite`).
-/

namespace Unsugar

namespace Eval

variable {α β : Type}

instance : LawfulMonad Eval :=
  LawfulMonad.mk' Eval
    (fun x => by
      funext env
      rcases h : x env with ⟨_ | _, _⟩ <;> simp [Functor.map, bind, pure, h])
    (fun _ _ => rfl)
    (fun x f g => by
      funext env
      rcases h : x env with ⟨_ | _, _⟩ <;> simp [Bind.bind, bind, h])

@[simp] theorem lift_ok (a : α) : (lift (.ok a) : Eval α) = Pure.pure a := rfl

theorem lift_bind (r : Except EvalError α) (f : α → Except EvalError β) :
    (lift (r >>= f) : Eval β) = lift r >>= fun a => lift (f a) := by
  cases r <;> rfl

end Eval

/-! ## Operations on dictionaries -/

namespace Dict

/-- The dictionary with entries stored in order. -/
def overwrite (d : Dict) (items : List (String × Value)) : Dict :=
  items.foldl (fun d item => store item.1 item.2 d) d

theorem fetch?_store (key : String) (value : Value) (d : Dict) (k : String) :
    fetch? k (store key value d) = if k = key then some value else fetch? k d :=
  Assoc.lookup_insert key value d k

/-- A key has the value of its last entry, and every other key the value it had. -/
theorem fetch?_overwrite (d : Dict) (items : List (String × Value)) (k : String) :
    fetch? k (overwrite d items) = (items.reverse.lookup k).or (fetch? k d) := by
  induction items generalizing d with
  | nil => rfl
  | cons item items ih =>
      obtain ⟨key, value⟩ := item
      show fetch? k (overwrite (store key value d) items) = _
      rw [ih, fetch?_store, List.reverse_cons, List.lookup_append, List.lookup_cons]
      by_cases h : k = key
      · subst h
        simp
      · simp [h, beq_eq_false_iff_ne.mpr h]

end Dict

namespace Value

/-- A dictionary with one more entry. -/
def store (v : Value) (key : String) (value : Value) : Except EvalError Value :=
  match v with
  | dict d => .ok (dict (Dict.store key value d))
  | _ => .error (.badArg "orddict:store/3")

/-- A dictionary with entries stored in order. Without entries nothing asks for a dictionary. -/
def overwrite (v : Value) (items : List (String × Value)) : Except EvalError Value :=
  match items, v with
  | [], v => .ok v
  | items, dict d => .ok (dict (Dict.overwrite d items))
  | _, _ => .error (.badArg "orddict:store/3")

/-- The value of a key of a dictionary. -/
def fetch (v : Value) (key : String) : Except EvalError Value :=
  match v with
  | dict d =>
      match Dict.fetch? key d with
      | some v => .ok v
      | none => .error (.badKey key)
  | _ => .error (.badArg "orddict:fetch/2")

theorem overwrite_dict (d : Dict) (items : List (String × Value)) :
    (dict d).overwrite items = .ok (dict (Dict.overwrite d items)) := by
  cases items <;> rfl

theorem overwrite_cons (v : Value) (key : String) (value : Value) (items : List (String × Value)) :
    v.overwrite ((key, value) :: items) = v.store key value >>= fun v => v.overwrite items := by
  cases v with
  | dict d =>
      show _ = (dict (Dict.store key value d)).overwrite items
      rw [overwrite_dict, overwrite_dict]
      rfl
  | _ => rfl

theorem containerCall_store (key : String) (value v : Value) :
    containerCall "store" [atom key, value, v] = v.store key value := by
  have signature : toString Container.module ++ toString ":" ++ toString "store" ++ toString "/" ++
      toString 3 = "orddict:store/3" := rfl
  cases v <;> simp only [containerCall, store, List.length_cons, List.length_nil]
  all_goals rw [signature]

theorem containerCall_fetch (key : String) (v : Value) :
    containerCall "fetch" [atom key, v] = v.fetch key := by
  have signature : toString Container.module ++ toString ":" ++ toString "fetch" ++ toString "/" ++
      toString 2 = "orddict:fetch/2" := rfl
  cases v with
  | dict d =>
      cases found : Dict.fetch? key d <;> simp only [containerCall, fetch, found]
  | _ =>
      simp only [containerCall, fetch, List.length_cons, List.length_nil]
      rw [signature]

end Value

/-! ## Evaluation of the builders -/

theorem eval_containerCall (l : Loc) (function : String) (args : List Expr) :
    (Expr.remoteCall l Container.module function args).eval =
      Expr.evalList args >>= fun values => Eval.lift (Value.containerCall function values) := by
  rw [Expr.remoteCall, Expr.eval]
  rfl

theorem eval_new (l : Loc) : (Container.new l).eval = pure (.dict Dict.new) := rfl

theorem eval_store (container : Expr) (e : Entry) :
    (Container.store container e).eval = (do
      let value ← e.value.eval
      let v ← container.eval
      Eval.lift (v.store e.key value)) := by
  rw [Container.store, eval_containerCall]
  simp only [Expr.evalList, Expr.eval, Value.ofLiteral, pure_bind, bind_assoc,
    Value.containerCall_store]

theorem eval_fetch (l : Loc) (key : String) (container : Expr) :
    (Container.fetch l key container).eval = (do
      let v ← container.eval
      Eval.lift (v.fetch key)) := by
  rw [Container.fetch, eval_containerCall]
  simp only [Expr.evalList, Expr.eval, Value.ofLiteral, pure_bind, bind_assoc,
    Value.containerCall_fetch]

end Unsugar
