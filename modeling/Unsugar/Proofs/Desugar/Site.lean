import Unsugar.Desugar.Refusal
import Mathlib.Data.List.Basic

/-!
# Sites of a term

A term is made of nodes of several sorts: expressions, clauses, segments, qualifiers, record fields
and entries. What desugaring does at a node depends on the node and on its role, so the two together
are a *site*. This module says once which sites stand directly below a site, in the order of the
fields; the pre-order walk, and with it every statement about all nodes of a term, is derived from
that.

Main statements: a site below another one holds a smaller node (`sizeOf_lt_of_mem_children`), so
sites are reached by induction from below (`Site.induction`), and the walk from a site is the site
itself and then the walks from its children (`walk_eq`, `nodes_eq`).
-/

namespace Unsugar

/-- A node of any sort. -/
inductive Part where
  | expr (e : Expr)
  | clause (c : Clause)
  | segment (s : Segment)
  | qualifier (q : Qualifier)
  | recordField (f : RecordField)
  | entry (e : Entry)

/-- A node in its role. -/
structure Site where
  context : Context
  part : Part

namespace Site

/-- Nodes of one sort in one role. -/
def each {α : Type} (ctx : Context) (node : α → Part) (xs : List α) : List Site :=
  xs.map fun x => ⟨ctx, node x⟩

/-- The sites directly below the `after` section of a `receive`. -/
def belowAfter (ctx : Context) : Option After → List Site
  | none => []
  | some ⟨timeout, es⟩ => each ctx .expr (timeout :: es)

/-- The sites directly below an expression. A match sets the role of its left side; all other
children inherit the role. -/
def belowExpr (ctx : Context) : Expr → List Site
  | .lit .. | .var .. | .funRef .. | .recordIndex .. | .foreign .. => []
  | .tuple _ es | .block _ es => each ctx .expr es
  | .cons _ h t => each ctx .expr [h, t]
  | .bin _ ss => each ctx .segment ss
  | .binOp _ _ a b => each ctx .expr [a, b]
  | .unOp _ _ a | .catching _ a | .recordField _ a _ _ => each ctx .expr [a]
  | .call _ f args => each ctx .expr (f :: args)
  | .remote _ m f => each ctx .expr [m, f]
  | .listComp _ t qs | .binComp _ t qs => each ctx .expr [t] ++ each ctx .qualifier qs
  | .ifs _ cs | .closure _ cs | .namedClosure _ _ cs => each ctx .clause cs
  | .caseOf _ s cs => each ctx .expr [s] ++ each ctx .clause cs
  | .tryOf _ es cs hs after =>
      each ctx .expr es ++ each ctx .clause cs ++ each ctx .clause hs ++ each ctx .expr after
  | .receive _ cs after => each ctx .clause cs ++ belowAfter ctx after
  | .remoteFunRef _ m f a => each ctx .expr [m, f, a]
  | .record _ base _ fs => each ctx .expr base.toList ++ each ctx .recordField fs
  | .map _ base es => each ctx .expr base.toList ++ each ctx .entry es
  | .field _ base _ => each ctx .expr base.toList
  | .exception _ kind p stack => each ctx .expr [kind, p] ++ each ctx .expr stack.toList
  | .bind _ p a => [⟨.pattern, .expr p⟩, ⟨ctx, .expr a⟩]

/-- The sites directly below a site, in the order of the fields. A clause sets the roles of its
parts whatever its own role. -/
def children : Site → List Site
  | ⟨ctx, .expr e⟩ => belowExpr ctx e
  | ⟨_, .clause c⟩ =>
      each .pattern .expr c.patterns ++ each .guard .expr c.guards.flatten ++
        each .body .expr c.body
  | ⟨ctx, .segment s⟩ => each ctx .expr [s.value] ++ each ctx .expr s.size.toList
  | ⟨ctx, .qualifier (.generate _ p e)⟩ | ⟨ctx, .qualifier (.binGenerate _ p e)⟩ =>
      each ctx .expr [p, e]
  | ⟨ctx, .qualifier (.filter test)⟩ => each ctx .expr [test]
  | ⟨ctx, .recordField f⟩ => each ctx .expr [f.value]
  | ⟨ctx, .entry e⟩ => each ctx .expr [e.value]

theorem mem_each {α : Type} {ctx : Context} {node : α → Part} {xs : List α} {s : Site} :
    s ∈ each ctx node xs ↔ ∃ x ∈ xs, s = ⟨ctx, node x⟩ := by
  simp [each, eq_comm]

theorem forall_mem_each {α : Type} {ctx : Context} {node : α → Part} {xs : List α}
    {p : Site → Prop} : (∀ s ∈ each ctx node xs, p s) ↔ ∀ x ∈ xs, p ⟨ctx, node x⟩ := by
  simp [each]

end Site

/-! ## Induction from below -/

/-- The size of a node, whatever its sort. -/
noncomputable def Part.size : Part → Nat
  | .expr e => sizeOf e
  | .clause c => sizeOf c
  | .segment s => sizeOf s
  | .qualifier q => sizeOf q
  | .recordField f => sizeOf f
  | .entry e => sizeOf e

namespace Site

theorem sizeOf_lt_of_mem {α : Type} [SizeOf α] {xs : List α} {n : Nat} (h : sizeOf xs ≤ n) :
    ∀ x ∈ xs, sizeOf x < n :=
  fun _ hx => Nat.lt_of_lt_of_le (List.sizeOf_lt_of_mem hx) h

theorem sizeOf_lt_of_eq_some {α : Type} [SizeOf α] {o : Option α} {n : Nat} (h : sizeOf o ≤ n) :
    ∀ x, o = some x → sizeOf x < n := by
  rintro x rfl
  simp at h
  omega

theorem sizeOf_lt_of_mem_flatten {α : Type} [SizeOf α] {xss : List (List α)} {n : Nat}
    (h : sizeOf xss ≤ n) : ∀ x ∈ xss.flatten, sizeOf x < n := by
  intro x hx
  obtain ⟨xs, hxs, hx⟩ := List.mem_flatten.mp hx
  exact sizeOf_lt_of_mem (Nat.le_of_lt (sizeOf_lt_of_mem h xs hxs)) x hx

theorem size_lt_of_mem_belowExpr (ctx : Context) (e : Expr) :
    ∀ c ∈ belowExpr ctx e, c.part.size < sizeOf e := by
  -- Only `receive` holds a section that is no node; all others hold nodes, lists and options.
  cases e
  case receive l cs after =>
    rcases after with _ | ⟨timeout, es⟩
    all_goals
      simp only [belowExpr, belowAfter, List.forall_mem_append, forall_mem_each,
        List.forall_mem_cons, Part.size, Expr.receive.sizeOf_spec, Option.some.sizeOf_spec,
        After.mk.sizeOf_spec]
    · exact ⟨sizeOf_lt_of_mem (by omega), by simp⟩
    · exact ⟨sizeOf_lt_of_mem (by omega), by omega, sizeOf_lt_of_mem (by omega)⟩
  all_goals
    simp only [belowExpr, List.forall_mem_append, forall_mem_each, List.forall_mem_cons,
      Option.mem_toList, Part.size]
    simp
  all_goals
    repeat' apply And.intro
  all_goals
    first
      | omega
      | exact sizeOf_lt_of_mem (by omega)
      | exact sizeOf_lt_of_eq_some (by omega)

/-- What stands below a site is smaller than the site. -/
theorem size_lt_of_mem_children (s : Site) : ∀ c ∈ s.children, c.part.size < s.part.size := by
  obtain ⟨ctx, p⟩ := s
  cases p with
  | expr e => exact size_lt_of_mem_belowExpr ctx e
  | clause c =>
      obtain ⟨l, patterns, guards, body⟩ := c
      simp only [children, List.forall_mem_append, forall_mem_each, Part.size,
        Clause.mk.sizeOf_spec]
      exact ⟨⟨sizeOf_lt_of_mem (by omega), sizeOf_lt_of_mem_flatten (by omega)⟩,
        sizeOf_lt_of_mem (by omega)⟩
  | segment s =>
      obtain ⟨l, e, size, types⟩ := s
      simp only [children, List.forall_mem_append, forall_mem_each, List.forall_mem_singleton,
        Option.mem_toList, Part.size, Segment.mk.sizeOf_spec]
      exact ⟨by omega, sizeOf_lt_of_eq_some (by omega)⟩
  | qualifier q =>
      cases q with
      | generate l p e | binGenerate l p e =>
          simp only [children, forall_mem_each, List.forall_mem_cons, Part.size,
            Qualifier.generate.sizeOf_spec, Qualifier.binGenerate.sizeOf_spec]
          exact ⟨by omega, by omega, by simp⟩
      | filter test =>
          simp only [children, forall_mem_each, List.forall_mem_singleton, Part.size,
            Qualifier.filter.sizeOf_spec]
          omega
  | recordField f =>
      obtain ⟨l, name, e⟩ := f
      simp only [children, forall_mem_each, List.forall_mem_singleton, Part.size,
        RecordField.mk.sizeOf_spec]
      omega
  | entry e =>
      obtain ⟨l, key, e⟩ := e
      simp only [children, forall_mem_each, List.forall_mem_singleton, Part.size,
        Entry.mk.sizeOf_spec]
      omega

/-- What holds of a site whenever it holds of its children holds of every site. -/
theorem induction {motive : Site → Prop}
    (step : ∀ s, (∀ c ∈ s.children, motive c) → motive s) (s : Site) : motive s :=
  step s fun c _ => induction step c
termination_by s.part.size
decreasing_by
  exact size_lt_of_mem_children s c ‹_›

/-! ## The walk -/

/-- A site met on a walk, and the sites it stands in from there outwards. -/
structure Visit where
  site : Site
  above : List Site

/-- The sites of a term in pre-order, for a term that stands below the sites given. -/
def walk (above : List Site) (s : Site) : List Visit :=
  ⟨s, above⟩ :: s.children.attach.flatMap fun c => walk (s :: above) c.1
termination_by s.part.size
decreasing_by
  exact size_lt_of_mem_children s c.1 c.2

/-- The sites of a term in pre-order. -/
def nodes (s : Site) : List Site := (walk [] s).map Visit.site

theorem walk_eq (above : List Site) (s : Site) :
    walk above s = ⟨s, above⟩ :: s.children.flatMap (walk (s :: above)) := by
  rw [walk, List.flatMap_def, List.attach_map_val, ← List.flatMap_def]

/-- Where a term stands does not matter for which sites are met. -/
theorem map_site_walk (above : List Site) (s : Site) :
    (walk above s).map Visit.site = s.nodes := by
  induction s using Site.induction generalizing above with
  | step s ih =>
      rw [nodes, walk_eq above, walk_eq []]
      simp only [List.map_cons, List.map_flatMap, List.cons.injEq, true_and]
      apply List.flatMap_congr
      intro c hc
      rw [ih c hc, ih c hc]

theorem nodes_eq (s : Site) : s.nodes = s :: s.children.flatMap nodes := by
  rw [nodes, walk_eq]
  simp [List.map_flatMap, map_site_walk]

/-- What stands directly below a site of a term is a site of the term. -/
theorem mem_nodes_of_mem_children (s : Site) :
    ∀ n ∈ s.nodes, ∀ c ∈ n.children, c ∈ s.nodes := by
  induction s using Site.induction with
  | step s ih =>
      intro n hn c hc
      rw [nodes_eq, List.mem_cons, List.mem_flatMap] at hn ⊢
      rcases hn with rfl | ⟨d, hd, hn⟩
      · refine Or.inr ⟨c, hc, ?_⟩
        rw [nodes_eq]
        exact List.mem_cons_self
      · exact Or.inr ⟨d, hd, ih d hd n hn c hc⟩

end Site

end Unsugar
