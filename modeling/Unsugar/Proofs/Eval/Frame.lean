import Unsugar.Eval.Basic
import Unsugar.Proofs.Desugar.Site
import Unsugar.Proofs.Eval.Container

/-!
# What evaluation does to its environment

An evaluation may read the variables that occur in its expression, and it may bind those on the left
of a match; nothing else of the environment is read or changed, whether it succeeds or fails. Both
halves are one property of an evaluation (`Eval.Framed`), which sequencing keeps, so it is proved
once for each way to build an evaluation and then along the expression.

Main statement: bindings stay, only matched variables are added, and environments that agree on the
variables of an expression cannot be told apart by it (`evaluation_framed`).
-/

namespace Unsugar

namespace Expr

/-- The variable occurs in the expression, at any depth and in any role. -/
def Mentions (e : Expr) (name : String) : Prop :=
  ∃ s ∈ Site.nodes ⟨.undefined, .expr e⟩, ∃ l, s.part = .expr (.var l name)

/-- The variable occurs in the expression as the left side of a match. -/
def Matches (e : Expr) (name : String) : Prop :=
  ∃ s ∈ Site.nodes ⟨.undefined, .expr e⟩, ∃ l l' value,
    s.part = .expr (.bind l (.var l' name) value)

/-- The environment after expressions were evaluated in it one after the other. Failures end
nothing but the expression they occur in. -/
def envAfter (es : List Expr) (env : Env) : Env := es.foldl (fun env e => (e.eval env).2) env

end Expr

namespace Env

/-- Both environments bind the names alike. -/
def AgreeOn (names : String → Prop) (env₁ env₂ : Env) : Prop :=
  ∀ name, names name → env₁.lookup name = env₂.lookup name

/-- A name that the first environment does not bind is bound by the second one. -/
def Adds (before after : Env) (name : String) (v : Value) : Prop :=
  before.lookup name = none ∧ after.lookup name = some v

end Env

/-! ## Occurrence -/

/-- A term stands in itself. -/
theorem Site.mem_nodes_self (s : Site) : s ∈ s.nodes := by
  rw [nodes_eq]
  exact List.mem_cons_self

namespace Expr

/-- What occurs in a part of an expression occurs in the expression. -/
theorem mem_nodes_of_mem_belowExpr {e : Expr} {s : Site}
    (child : s ∈ Site.belowExpr .undefined e) :
    ∀ n ∈ s.nodes, n ∈ Site.nodes ⟨.undefined, .expr e⟩ := by
  intro n hn
  rw [Site.nodes_eq]
  exact List.mem_cons_of_mem _ (List.mem_flatMap.mpr ⟨_, child, hn⟩)

/-- A variable on the left of a match occurs there. -/
theorem Matches.mentions {e : Expr} {name : String} (h : e.Matches name) : e.Mentions name := by
  obtain ⟨⟨ctx, p⟩, hn, l, l', value, rfl⟩ := h
  refine ⟨_, Site.mem_nodes_of_mem_children _ _ hn ⟨.pattern, .expr (.var l' name)⟩ ?_, l', rfl⟩
  exact List.mem_cons_self

end Expr

/-! ## Framed evaluations -/

namespace Eval

theorem bind_ok {α β : Type} {x : Eval α} {f : α → Eval β} {env env' : Env} {a : α}
    (h : x env = (.ok a, env')) : (x >>= f) env = f a env' := by
  show Eval.bind x f env = _
  rw [Eval.bind, h]

theorem bind_error {α β : Type} {x : Eval α} {f : α → Eval β} {env env' : Env} {e : EvalError}
    (h : x env = (.error e, env')) : (x >>= f) env = (.error e, env') := by
  show Eval.bind x f env = _
  rw [Eval.bind, h]

theorem snd_lookup (name : String) (env : Env) : (Eval.lookup name env).2 = env := by
  unfold Eval.lookup
  split <;> rfl

/-- The environment after a match with a variable: it is extended if the variable is a name that was
not bound. -/
theorem snd_assign (name : String) (v : Value) (env : Env) :
    (Eval.assign name v env).2 =
      if name ≠ "_" ∧ env.lookup name = none then Assoc.insert name v env else env := by
  unfold Eval.assign
  by_cases wildcard : name = "_"
  · simp [wildcard]
  · cases h : env.lookup name with
    | none => simp [wildcard]
    | some bound =>
        simp only [wildcard, ↓reduceIte]
        split <;> simp

/-- An evaluation that keeps all bindings, adds bindings of the names in `binds` alone, and depends
on the names in `reads` alone. -/
structure Framed {α : Type} (reads binds : String → Prop) (x : Eval α) : Prop where
  kept : ∀ env name v, env.lookup name = some v → (x env).2.lookup name = some v
  added : ∀ env name v, Env.Adds env (x env).2 name v → binds name ∧ name ≠ "_"
  determined : ∀ env₁ env₂, Env.AgreeOn reads env₁ env₂ →
    (x env₁).1 = (x env₂).1 ∧ Env.AgreeOn reads (x env₁).2 (x env₂).2

namespace Framed

variable {α β : Type} {reads binds : String → Prop}

/-- An outcome that needs no environment. -/
theorem lift (r : Except EvalError α) : Framed reads binds (Eval.lift r) where
  kept _ _ _ bound := bound
  added env name v h := by
    obtain ⟨unbound, bound⟩ := h
    rw [Eval.lift, unbound] at bound
    cases bound
  determined _ _ agree := ⟨rfl, agree⟩

theorem pure (a : α) : Framed reads binds (Pure.pure a) := lift (.ok a)

theorem fail (e : EvalError) : Framed reads binds (Eval.fail e : Eval α) := lift (.error e)

theorem bind {x : Eval α} {f : α → Eval β} (first : Framed reads binds x)
    (next : ∀ a, Framed reads binds (f a)) : Framed reads binds (x >>= f) := by
  constructor
  · intro env name v bound
    have here := first.kept env name v bound
    rcases hx : x env with ⟨_ | a, env'⟩ <;> rw [hx] at here
    · rw [bind_error hx]
      exact here
    · rw [bind_ok hx]
      exact (next a).kept env' name v here
  · rintro env name v ⟨unbound, bound⟩
    -- The name was bound either by the first evaluation or by the one that follows.
    have added := first.added env name
    rcases hx : x env with ⟨_ | a, env'⟩ <;> rw [hx] at added
    · rw [bind_error hx] at bound
      exact added v ⟨unbound, bound⟩
    · rw [bind_ok hx] at bound
      cases here : env'.lookup name with
      | none => exact (next a).added env' name v ⟨here, bound⟩
      | some w => exact added w ⟨unbound, here⟩
  · intro env₁ env₂ agree
    obtain ⟨same, agree'⟩ := first.determined env₁ env₂ agree
    rcases hx₁ : x env₁ with ⟨r, env₁'⟩
    rcases hx₂ : x env₂ with ⟨r', env₂'⟩
    rw [hx₁, hx₂] at same agree'
    cases same
    cases r with
    | error e =>
        rw [bind_error hx₁, bind_error hx₂]
        exact ⟨rfl, agree'⟩
    | ok a =>
        rw [bind_ok hx₁, bind_ok hx₂]
        exact (next a).determined env₁' env₂' agree'

theorem lookup {name : String} (read : reads name) : Framed reads binds (Eval.lookup name) := by
  constructor
  · intro env other v bound
    rw [snd_lookup]
    exact bound
  · rintro env other v ⟨unbound, bound⟩
    rw [snd_lookup, unbound] at bound
    cases bound
  · intro env₁ env₂ agree
    rw [snd_lookup, snd_lookup]
    refine ⟨?_, agree⟩
    rw [Eval.lookup, Eval.lookup, agree name read]
    split <;> rfl

theorem assign {name : String} (v : Value) (read : reads name) (bind : binds name) :
    Framed reads binds (Eval.assign name v) := by
  constructor
  · intro env other w bound
    rw [snd_assign]
    split
    · next new =>
        have other_ne : other ≠ name := by
          rintro rfl
          rw [new.2] at bound
          cases bound
        rw [Assoc.lookup_insert, if_neg other_ne, bound]
    · exact bound
  · rintro env other w ⟨unbound, bound⟩
    rw [snd_assign] at bound
    split at bound
    · next new =>
        rw [Assoc.lookup_insert] at bound
        split at bound
        · next same => exact same ▸ ⟨bind, new.1⟩
        · rw [unbound] at bound
          cases bound
    · rw [unbound] at bound
      cases bound
  · intro env₁ env₂ agree
    have here := agree name read
    refine ⟨?_, ?_⟩
    · rw [Eval.assign, Eval.assign, here]
      split
      · rfl
      · split
        · split <;> rfl
        · rfl
    · intro other reads
      rw [snd_assign, snd_assign, here]
      split
      · rw [Assoc.lookup_insert, Assoc.lookup_insert, agree other reads]
      · exact agree other reads

end Framed

end Eval

/-! ## Expressions -/

namespace Expr

open Eval

variable {reads binds : String → Prop}

theorem framed_evalList {es : List Expr} (h : ∀ e ∈ es, Framed reads binds e.eval) :
    Framed reads binds (evalList es) := by
  induction es with
  | nil => exact .pure _
  | cons e es ih =>
      obtain ⟨head, tail⟩ := List.forall_mem_cons.mp h
      rw [evalList]
      exact head.bind fun _ => (ih tail).bind fun _ => .pure _

theorem framed_evalBody {es : List Expr} (h : ∀ e ∈ es, Framed reads binds e.eval) (last : Value) :
    Framed reads binds (evalBody last es) := by
  induction es generalizing last with
  | nil => exact .pure _
  | cons e es ih =>
      obtain ⟨head, tail⟩ := List.forall_mem_cons.mp h
      rw [evalBody]
      exact head.bind fun v => ih tail v

/-- An evaluation reads only what its expression mentions and binds only what it matches. The
induction is on the size of the expression, for names that may come from around it. -/
theorem framed_eval (e : Expr) (mentioned : ∀ name, e.Mentions name → reads name)
    (matched : ∀ name, e.Matches name → binds name) : Framed reads binds e.eval := by
  have below : ∀ a : Expr, ⟨.undefined, .expr a⟩ ∈ Site.belowExpr .undefined e →
      Framed reads binds a.eval := by
    intro a child
    apply framed_eval a
    · rintro name ⟨n, hn, found⟩
      exact mentioned name ⟨n, mem_nodes_of_mem_belowExpr child n hn, found⟩
    · rintro name ⟨n, hn, found⟩
      exact matched name ⟨n, mem_nodes_of_mem_belowExpr child n hn, found⟩
  cases e with
  | lit l v =>
      rw [eval]
      exact .pure _
  | var l name =>
      rw [eval]
      exact .lookup (mentioned name ⟨_, Site.mem_nodes_self _, l, rfl⟩)
  | tuple l es =>
      rw [eval]
      refine (framed_evalList ?_).bind fun _ => .pure _
      intro a ha
      exact below a (Site.mem_each.mpr ⟨a, ha, rfl⟩)
  | cons l h t =>
      rw [eval]
      refine (below h ?_).bind fun _ => (below t ?_).bind fun _ => .lift _
      all_goals simp [Site.belowExpr, Site.each]
  | binOp l op a b =>
      rw [eval]
      refine (below a ?_).bind fun _ => (below b ?_).bind fun _ => .lift _
      all_goals simp [Site.belowExpr, Site.each]
  | unOp l op a =>
      rw [eval]
      refine (below a ?_).bind fun _ => .lift _
      simp [Site.belowExpr, Site.each]
  | block l es =>
      rw [eval]
      apply framed_evalBody
      intro a ha
      exact below a (Site.mem_each.mpr ⟨a, ha, rfl⟩)
  | bind l p a =>
      rw [eval]
      have value : Framed reads binds a.eval := below a (by simp [Site.belowExpr])
      refine value.bind fun v => ?_
      cases p with
      | var l' name =>
          have here : Matches (.bind l (.var l' name) a) name :=
            ⟨_, Site.mem_nodes_self _, l, l', a, rfl⟩
          exact .assign v (mentioned name here.mentions) (matched name here)
      | _ => exact .fail _
  | call l f args =>
      rw [eval]
      split
      · exact .fail _
      · split
        · refine (framed_evalList ?_).bind fun _ => .lift _
          intro a ha
          exact below a (Site.mem_each.mpr ⟨a, List.mem_cons_of_mem _ ha, rfl⟩)
        · exact .fail _
  | _ => exact .fail _
termination_by sizeOf e
decreasing_by
  exact Site.size_lt_of_mem_belowExpr _ e _ child

theorem framed (e : Expr) : Framed e.Mentions e.Matches e.eval :=
  e.framed_eval (fun _ h => h) fun _ h => h

theorem adds_of_agreeOn {e : Expr} {env₁ env₂ : Env} (agree : Env.AgreeOn e.Mentions env₁ env₂)
    {name : String} {v : Value} (h : Env.Adds env₁ (e.eval env₁).2 name v) :
    Env.Adds env₂ (e.eval env₂).2 name v := by
  have mentioned := (e.framed.added env₁ name v h).1.mentions
  have agree' := (e.framed.determined env₁ env₂ agree).2
  exact ⟨agree name mentioned ▸ h.1, agree' name mentioned ▸ h.2⟩

theorem lookup_envAfter {es : List Expr} {env : Env} {name : String} {v : Value}
    (bound : env.lookup name = some v) : (envAfter es env).lookup name = some v := by
  induction es generalizing env with
  | nil => exact bound
  | cons e es ih => exact ih (e.framed.kept env name v bound)

end Expr

/-- Evaluation is framed and assigns once. Whether it succeeds or fails, all bindings stay and every
name it adds is matched in the expression and no wildcard; over expressions evaluated one after the
other a variable that is bound keeps its value; and environments that agree on the variables of an
expression lead to the same outcome and the same added bindings. -/
theorem evaluation_framed :
    (∀ (e : Expr) (env : Env),
      (∀ name v, env.lookup name = some v → (e.eval env).2.lookup name = some v) ∧
      ∀ name v, Env.Adds env (e.eval env).2 name v → e.Matches name ∧ name ≠ "_") ∧
    (∀ (es es' : List Expr) (env : Env) (name : String) (v : Value),
      (Expr.envAfter es env).lookup name = some v →
        (Expr.envAfter (es ++ es') env).lookup name = some v) ∧
    ∀ (e : Expr) (env₁ env₂ : Env), Env.AgreeOn e.Mentions env₁ env₂ →
      (e.eval env₁).1 = (e.eval env₂).1 ∧
      ∀ name v, Env.Adds env₁ (e.eval env₁).2 name v ↔ Env.Adds env₂ (e.eval env₂).2 name v := by
  refine ⟨?_, ?_, ?_⟩
  · intro e env
    exact ⟨e.framed.kept env, e.framed.added env⟩
  · intro es es' env name v bound
    rw [Expr.envAfter, List.foldl_append]
    exact Expr.lookup_envAfter bound
  · intro e env₁ env₂ agree
    have agree' : Env.AgreeOn e.Mentions env₂ env₁ := fun name h => (agree name h).symm
    refine ⟨(e.framed.determined env₁ env₂ agree).1, ?_⟩
    intro name v
    exact ⟨Expr.adds_of_agreeOn agree, Expr.adds_of_agreeOn agree'⟩

/-- The first match of a tuple binds its variable, the second one fails. -/
theorem evaluation_framed_failure :
    let l := Loc.onLine 1
    let one : Expr := .lit l (.integer 1)
    let e : Expr := .tuple l [.bind l (.var l "X") one, .bind l (.var l "Y") one]
    let later : Expr := .bind l (.var l "X") (.lit l (.integer 5))
    let env₁ : Env := [("Y", .integer 2)]
    let env₂ : Env := [("Y", .integer 2), ("Z", .integer 3)]
    (e.eval env₁).1 = .error (.badMatch "1") ∧
    (env₁.lookup "Y" = some (.integer 2) ∧ (e.eval env₁).2.lookup "Y" = some (.integer 2)) ∧
    (Env.Adds env₁ (e.eval env₁).2 "X" (.integer 1) ∧ e.Matches "X" ∧ "X" ≠ "_") ∧
    ((Expr.envAfter [e] env₁).lookup "X" = some (.integer 1) ∧
      (Expr.envAfter ([e] ++ [later]) env₁).lookup "X" = some (.integer 1)) ∧
    Env.AgreeOn e.Mentions env₁ env₂ ∧
    (e.eval env₁).1 = (e.eval env₂).1 ∧ Env.Adds env₂ (e.eval env₂).2 "X" (.integer 1) := by
  intro l one e later env₁ env₂
  obtain ⟨framed, once, determined⟩ := evaluation_framed
  have outcome : e.eval env₁ =
      (.error (.badMatch "1"), [("X", .integer 1), ("Y", .integer 2)]) := by
    rfl
  have added : Env.Adds env₁ (e.eval env₁).2 "X" (.integer 1) := by
    rw [outcome]
    exact ⟨rfl, rfl⟩
  have bound : (Expr.envAfter [e] env₁).lookup "X" = some (.integer 1) := added.2
  have agree : Env.AgreeOn e.Mentions env₁ env₂ := by
    rintro name ⟨s, hs, l', found⟩
    have sites : name = "X" ∨ name = "Y" := by
      simp only [e, one, Site.nodes_eq, Site.children, Site.belowExpr, Site.each, List.map_cons,
        List.map_nil, List.flatMap_cons, List.flatMap_nil, List.append_nil, List.cons_append,
        List.nil_append, List.mem_cons, List.not_mem_nil, or_false] at hs
      rcases hs with rfl | rfl | rfl | rfl | rfl | rfl | rfl <;> cases found <;> simp
    rcases sites with rfl | rfl <;> rfl
  obtain ⟨same, adds⟩ := determined e env₁ env₂ agree
  exact ⟨congrArg Prod.fst outcome, ⟨rfl, (framed e env₁).1 "Y" _ rfl⟩,
    ⟨added, (framed e env₁).2 "X" _ added⟩, ⟨bound, once [e] [later] env₁ "X" _ bound⟩, agree, same,
    (adds "X" _).mp added⟩

end Unsugar
