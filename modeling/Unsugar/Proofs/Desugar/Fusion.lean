import Unsugar.Proofs.Desugar.Outcome

/-!
# Fusion of updates

An update of an aggregate stores its entries after those of the aggregate. So updates one upon the
other come to the same as a single aggregate with all the entries in order, and since the base is
desugared before the entries, and the entries in order, both also stop at the same place. All that
tells them apart is the way outwards from there, which passes fewer nodes in a single aggregate.

Main statement: `updates_fuse`.
-/

namespace Unsugar

/-- The refusal without the way outwards: a node and its role, or a line and what is wrong there. -/
def Refusal.culprit : Refusal → Refusal
  | unsupported node context _ => unsupported node context []
  | malformed line detail => malformed line detail

theorem Refusal.culprit_within (frame : Frame) (r : Refusal) :
    (r.within frame).culprit = r.culprit := by
  cases r <;> rfl

theorem Container.storeAll_append (container : Expr) (es fs : List Entry) :
    storeAll container (es ++ fs) = storeAll (storeAll container es) fs :=
  List.foldl_append

theorem Entry.desugarList_append (ctx : Context) (es fs : List Entry) :
    Entry.desugarList ctx (es ++ fs) =
      return (← Entry.desugarList ctx es) ++ (← Entry.desugarList ctx fs) := by
  apply Desugared.handles_append (f := Entry.desugar ctx) (Entry.desugarList ctx) rfl
  rintro ⟨l, key, e⟩ es
  simp [Entry.desugarList, Entry.desugar]

namespace Expr

/-- Updates of an expression one upon the other, the first one innermost. -/
def updates (e : Expr) (layers : List (Loc × List Entry)) : Expr :=
  layers.foldl (fun base layer => .map layer.1 (some base) layer.2) e

theorem desugar_map_eq_ok {l : Loc} {base : Option Expr} {es : List Entry} {t : Expr} :
    (Expr.map l base es).desugar .body = .ok t ↔
      ∃ base' es', desugarOpt .body base = .ok base' ∧ Entry.desugarList .body es = .ok es' ∧
        t = Container.storeAll (base'.getD (Container.new l)) es' := by
  simp only [desugar, Desugared.within_eq_ok, Except.bind_eq_ok, if_pos, Except.pure_eq_ok,
    Except.ok.injEq, eq_comm (a := t)]
  constructor
  · rintro ⟨base', hbase, es', hes, rfl⟩
    exact ⟨base', es', hbase, hes, rfl⟩
  · rintro ⟨base', es', hbase, hes, rfl⟩
    exact ⟨base', hbase, es', hes, rfl⟩

theorem desugar_update_update (l₁ l₂ : Loc) (base : Option Expr) (xs ys : List Entry) :
    Desugared.SameUpTo Refusal.culprit
      ((Expr.map l₂ (some (.map l₁ base xs)) ys).desugar .body)
      ((Expr.map l₁ base (xs ++ ys)).desugar .body) := by
  simp only [desugar, desugarOpt, Entry.desugarList_append]
  -- Whichever part is refused first, both refusals are of its culprit and differ in what they pass.
  cases desugarOpt .body base with
  | error r =>
      refine .error ?_
      simp only [Refusal.culprit_within]
  | ok base' =>
      cases Entry.desugarList .body xs with
      | error r =>
          refine .error ?_
          simp only [Refusal.culprit_within]
      | ok xs' =>
          cases Entry.desugarList .body ys with
          | error r =>
              refine .error ?_
              simp only [Refusal.culprit_within]
          | ok ys' =>
              have joined := Container.storeAll_append (base'.getD (Container.new l₁)) xs' ys'
              simp only [Except.ok_bind, Except.pure_eq_ok, if_pos, joined]
              exact .refl _

/-- Each further layer joins the entries below it. -/
theorem desugar_updates (l : Loc) (base : Option Expr) (es : List Entry)
    (layers : List (Loc × List Entry)) :
    Desugared.SameUpTo Refusal.culprit (((Expr.map l base es).updates layers).desugar .body)
      ((Expr.map l base (es ++ layers.flatMap Prod.snd)).desugar .body) := by
  induction layers generalizing l base es with
  | nil =>
      rw [List.flatMap_nil, List.append_nil]
      exact .refl _
  | cons layer layers ih =>
      obtain ⟨l', fs⟩ := layer
      have fused := desugar_update_update l l' base es (fs ++ layers.flatMap Prod.snd)
      rw [List.flatMap_cons]
      exact (ih l' (some (.map l base es)) fs).trans fused

end Expr

/-- Chained updates fuse. In a body, an update of an aggregate and the aggregate with the entries of
both become the same tree, or are refused for the same node in the same role, or for the same line
and detail. So does any chain of updates over an aggregate, with a base or without one: it becomes a
single chain of stores with all entries in order. -/
theorem updates_fuse :
    (∀ (l₁ l₂ : Loc) (base : Option Expr) (xs ys : List Entry),
      Desugared.SameUpTo Refusal.culprit
        ((Expr.map l₂ (some (.map l₁ base xs)) ys).desugar .body)
        ((Expr.map l₁ base (xs ++ ys)).desugar .body)) ∧
    (∀ (l : Loc) (base : Option Expr) (es : List Entry) (layers : List (Loc × List Entry)),
      Desugared.SameUpTo Refusal.culprit (((Expr.map l base es).updates layers).desugar .body)
        ((Expr.map l base (es ++ layers.flatMap Prod.snd)).desugar .body)) ∧
    ∀ (l : Loc) (base : Option Expr) (es : List Entry) (layers : List (Loc × List Entry)) (t : Expr),
      ((Expr.map l base es).updates layers).desugar .body = .ok t ↔
        ∃ base' es', Expr.desugarOpt .body base = .ok base' ∧
          Entry.desugarList .body (es ++ layers.flatMap Prod.snd) = .ok es' ∧
          t = Container.storeAll (base'.getD (Container.new l)) es' := by
  refine ⟨Expr.desugar_update_update, Expr.desugar_updates, ?_⟩
  intro l base es layers t
  rw [(Expr.desugar_updates l base es layers).eq_ok_iff, Expr.desugar_map_eq_ok]

end Unsugar
