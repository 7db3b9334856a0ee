import Unsugar.Proofs.Desugar.Transform

/-!
# Properties of all nodes

Much of what is proved of a desugared term is said of its nodes one by one. A node of the outcome
is either one that desugaring keeps or one that a container call is made of, so it is enough to
prove the property of these two (`forall_mem_nodes_of_desugar`).
-/

namespace Unsugar

namespace Site

variable {p q : Site → Prop}

/-- What holds of all sites of a term holds of the term itself and of all sites of its children. -/
theorem forall_mem_nodes {s : Site} :
    (∀ n ∈ s.nodes, p n) ↔ p s ∧ ∀ c ∈ s.children, ∀ n ∈ c.nodes, p n := by
  rw [nodes_eq]
  simp only [List.forall_mem_cons, List.mem_flatMap]
  constructor
  · rintro ⟨here, below⟩
    refine ⟨here, ?_⟩
    intro c hc n hn
    exact below n ⟨c, hc, hn⟩
  · rintro ⟨here, below⟩
    refine ⟨here, ?_⟩
    rintro n ⟨c, hc, hn⟩
    exact below c hc n hn

/-- The property holds of the nodes that a container call is made of, its arguments apart. -/
structure HoldsInCalls (p : Site → Prop) : Prop where
  atom (l : Loc) (name : String) : p ⟨.body, .expr (.lit l (.atom name))⟩
  remote (l : Loc) (module function : Expr) : p ⟨.body, .expr (.remote l module function)⟩
  call (l : Loc) (function : Expr) (args : List Expr) : p ⟨.body, .expr (.call l function args)⟩

namespace HoldsInCalls

theorem forall_mem_atom (calls : HoldsInCalls p) (l : Loc) (name : String) :
    ∀ n ∈ nodes ⟨.body, .expr (.lit l (.atom name))⟩, p n := by
  rw [forall_mem_nodes]
  exact ⟨calls.atom l name, by simp [children, belowExpr]⟩

theorem forall_mem_remoteCall (calls : HoldsInCalls p) (l : Loc) (module function : String)
    {args : List Expr} (h : ∀ a ∈ args, ∀ n ∈ nodes ⟨.body, .expr a⟩, p n) :
    ∀ n ∈ nodes ⟨.body, .expr (.remoteCall l module function args)⟩, p n := by
  have callee : ∀ n ∈ nodes
      ⟨.body, .expr (.remote l (.lit l (.atom module)) (.lit l (.atom function)))⟩, p n := by
    rw [forall_mem_nodes]
    refine ⟨calls.remote _ _ _, ?_⟩
    simp only [children, belowExpr, forall_mem_each, List.forall_mem_cons]
    exact ⟨calls.forall_mem_atom l module, calls.forall_mem_atom l function, by simp⟩
  rw [Expr.remoteCall, forall_mem_nodes]
  refine ⟨calls.call _ _ _, ?_⟩
  simp only [children, belowExpr, forall_mem_each, List.forall_mem_cons]
  exact ⟨callee, h⟩

theorem forall_mem_storeAll (calls : HoldsInCalls p) {container : Expr} {es : List Entry}
    (base : ∀ n ∈ nodes ⟨.body, .expr container⟩, p n)
    (h : ∀ e ∈ es, ∀ n ∈ nodes ⟨.body, .entry e⟩, p n) :
    ∀ n ∈ nodes ⟨.body, .expr (Container.storeAll container es)⟩, p n := by
  induction es generalizing container with
  | nil => exact base
  | cons e es ih =>
      obtain ⟨he, hes⟩ := List.forall_mem_cons.mp h
      refine ih ?_ hes
      have value : ∀ n ∈ nodes ⟨.body, .expr e.value⟩, p n := by
        rw [forall_mem_nodes] at he
        exact he.2 _ (by simp [children, mem_each])
      apply calls.forall_mem_remoteCall
      simp only [List.forall_mem_cons]
      exact ⟨calls.forall_mem_atom _ _, value, base, by simp⟩

end HoldsInCalls

/-- All nodes of a desugared term have the property `q`, if it holds of the nodes of container calls
and of what desugaring keeps, where all nodes before had the property `p`. -/
theorem forall_mem_nodes_of_desugar (calls : HoldsInCalls q)
    (kept : ∀ s t : Site, p s → t.part.label? = s.part.label? → t.isOffence = false →
      t.isSugar = false → q t) (s : Site) :
    (∀ n ∈ s.nodes, p n) → ∀ t, s.desugar = .ok t → ∀ n ∈ t.nodes, q n := by
  induction s using Site.induction with
  | step s ih =>
      intro h t ht
      rw [forall_mem_nodes] at h
      obtain ⟨here, children⟩ := h
      obtain ⟨-, cs, below, assembled⟩ := desugar_ok ht
      have outcomes : ∀ c ∈ cs, ∀ n ∈ c.nodes, q n :=
        forall_outcomes below fun c hc => ih c hc (children c hc)
      cases assembled with
      | kept sugar context label frame plain sound eq =>
          rw [forall_mem_nodes]
          exact ⟨kept s t here label sound plain, eq ▸ outcomes⟩
      | literal =>
          rw [forall_mem_each] at outcomes
          exact calls.forall_mem_storeAll (calls.forall_mem_remoteCall _ _ _ (by simp)) outcomes
      | update =>
          rw [List.forall_mem_cons, forall_mem_each] at outcomes
          exact calls.forall_mem_storeAll outcomes.1 outcomes.2
      | access base =>
          rw [List.forall_mem_singleton] at outcomes
          apply calls.forall_mem_remoteCall
          simp only [List.forall_mem_cons]
          exact ⟨calls.forall_mem_atom _ _, outcomes, by simp⟩

end Site

end Unsugar
