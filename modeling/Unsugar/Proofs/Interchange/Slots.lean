import Unsugar.Proofs.Interchange.Parts
import Unsugar.Proofs.Interchange.Schema
import Unsugar.Proofs.Interchange.WellFormed

/-!
# Members that were read

What a reader finds in a member represents the value it is read from: it is well formed, and it is
written as that value again, save for what the schema leaves open. This module proves it for each
way of reading a member, from the assumption that it holds of the parts read further inside
(`Node.Settled`). Going through the kinds of nodes is left to the modules that use it.
-/

namespace Unsugar

open Interchange

namespace Part

def IsWellFormed (p : Part) : Prop := ∀ ctx, Site.IsWellFormed ⟨ctx, p⟩

/-- A well-formed part that is written as the value, save for what the schema leaves open. -/
structure Represents (p : Part) (v : Json) : Prop where
  wellFormed : p.IsWellFormed
  kept : Kept p.shape p.toJson v

end Part

namespace Node

/-- The node holds finite doubles, and what is read inside it represents what it is read from. -/
structure Settled (n : Node) : Prop where
  finite : n.value.IsFinite
  below : ∀ m : n.Inner, m.1.value.IsFinite → ∀ p : Part, p.IsRead m.1 → p.Represents m.1.value

theorem Settled.inner {n : Node} (settled : n.Settled) {m : n.Inner} (finite : m.1.value.IsFinite) :
    m.1.Settled :=
  ⟨finite, fun k => settled.below (m.outward k)⟩

variable {n : Node} {name : String}

theorem present_of_member? {m : n.Inner} (h : n.member? name = .ok (some m)) :
    Shape.present n.value name = true := by
  obtain ⟨found, present⟩ := member?_eq_some h
  rw [Shape.present, found]
  split
  · next absent => cases absent
  · next null => exact absurd (Option.some.inj null) present
  · rfl

theorem not_present_of_member? (h : n.member? name = .ok none) :
    Shape.present n.value name = false := by
  rcases member?_eq_none h with absent | absent <;> rw [Shape.present, absent]

theorem keptMember_data {v : Json} (h : n.value.get? name = some v) :
    KeptMember n.value (.required name .data) (name, v) :=
  .kept (s := .required name .data) h .data

theorem keptMember_loc {l : Loc} (h : n.loc = .ok l) : KeptMember n.value .loc ("loc", l.toJson) :=
  keptMember_data (loc_eq_ok.mp h)

theorem keptMember_string {s : String} (h : n.stringField name = .ok s) :
    KeptMember n.value (.required name .data) (name, .str s) :=
  keptMember_data (stringField_eq_ok.mp h)

namespace Settled

theorem member {m : n.Inner} (settled : n.Settled) (h : n.member? name = .ok (some m)) :
    m.1.Settled :=
  settled.inner (settled.finite.get? (member?_eq_some h).1)

section Slots

variable {α : Type} {s : Shape} {w : Json} {P : Prop}

/-- A required member is kept if its reader keeps it. -/
theorem required {f : n.Inner → Read α} {a : α} (settled : n.Settled) (h : n.field name f = .ok a)
    (read : ∀ m : n.Inner, m.1.Settled → f m = .ok a → Kept s w m.1.value ∧ P) :
    KeptMember n.value (.required name s) (name, w) ∧ P := by
  obtain ⟨m, hm, ha⟩ := field_eq_ok.mp h
  obtain ⟨kept, rest⟩ := read m (settled.member hm) ha
  exact ⟨.kept (s := .required name s) (member?_eq_some hm).1 kept, rest⟩

/-- An optional member is kept if its reader keeps it, and otherwise filled in. -/
theorem optional {f : n.Inner → Read α} {o : Option α} (settled : n.Settled)
    (h : n.fieldOpt name f = .ok o)
    (read : ∀ (m : n.Inner) (a : α), m.1.Settled → f m = .ok a → o = some a →
      Kept s w m.1.value ∧ P)
    (absent : o = none → w = (Slot.optional name s).filler ∧ P) :
    KeptMember n.value (.optional name s) (name, w) ∧ P := by
  rcases fieldOpt_eq_ok.mp h with ⟨m, a, hm, ha, eq⟩ | ⟨hm, eq⟩
  · obtain ⟨kept, rest⟩ := read m a (settled.member hm) ha eq
    exact ⟨.kept (s := .optional name s) (member?_eq_some hm).1 kept, rest⟩
  · obtain ⟨rfl, rest⟩ := absent eq
    exact ⟨.filled (s := .optional name s) rfl (member?_eq_none hm), rest⟩

end Slots

theorem float {x : Float} (settled : n.Settled) (h : n.field name (·.1.float) = .ok x) :
    KeptMember n.value (.required name .number) (name, .ofFloat x) ∧ x.isFinite = true := by
  apply settled.required h
  intro m inner hx
  -- An integer is written as a double, so the two values agree in the double alone.
  have read := scalar_eq_ok.mp hx
  have finite := inner.finite.toFloat? read
  have written : (Json.ofFloat x).toFloat? = some x := by
    rw [Json.ofFloat, if_pos finite]
    rfl
  exact ⟨.number written read, finite⟩

theorem expr {e : Expr} (settled : n.Settled)
    (h : n.field name (fun m => Interchange.expr m.1) = .ok e) :
    KeptMember n.value (.required name .expr) (name, e.toJson) ∧ Part.IsWellFormed (.expr e) := by
  apply settled.required h
  intro m inner he
  have read := settled.below m inner.finite (.expr e) he
  exact ⟨read.kept, read.wellFormed⟩

theorem exprOpt {o : Option Expr} (settled : n.Settled)
    (h : n.fieldOpt name (fun m => Interchange.expr m.1) = .ok o) :
    KeptMember n.value (.optional name .expr) (name, Expr.optToJson o) ∧
      ∀ ctx, ∀ c ∈ Site.each ctx .expr o.toList, c.IsWellFormed := by
  apply settled.optional h
  · rintro m e inner he rfl
    have read := settled.below m inner.finite (.expr e) he
    refine ⟨read.kept, ?_⟩
    intro ctx
    exact List.forall_mem_singleton.mpr (read.wellFormed ctx)
  · rintro rfl
    exact ⟨rfl, by simp [Site.each]⟩

/-- A list of parts of one sort. -/
theorem list {α : Type} (S : PartSort α) (settled : n.Settled) {m : n.Inner}
    (finite : m.1.value.IsFinite) {as : List α} (h : m.items (fun k => S.read k.1) = .ok as) :
    Kept (.list S.shape) (.arr (S.writeAll as)) m.1.value ∧
      ∀ ctx, ∀ c ∈ Site.each ctx S.part as, c.IsWellFormed := by
  obtain ⟨vs, hv, items⟩ := items_eq_ok h
  rw [hv] at finite ⊢
  replace finite := Json.ItemsFinite.of_mem finite
  -- The induction is on the items, each of which stands at some node inside; the list has no part.
  suffices KeptItems S.shape (S.writeAll as) vs ∧
      ∀ ctx, ∀ c ∈ Site.each ctx S.part as, c.IsWellFormed from ⟨.list this.1, this.2⟩
  clear h hv
  induction items with
  | nil =>
      rw [S.writeAll_nil]
      exact ⟨.nil, by simp [Site.each]⟩
  | @cons v a vs as item _ ih =>
      obtain ⟨here, rest⟩ := List.forall_mem_cons.mp finite
      obtain ⟨k, rfl, ha⟩ := item
      have read := settled.below (m.outward k) here (S.part a) (S.isRead_iff.mpr ha)
      obtain ⟨kept, wellFormed⟩ := ih rest
      rw [S.writeAll_cons]
      refine ⟨.cons (S.shape_eq a ▸ read.kept) kept, ?_⟩
      intro ctx
      exact List.forall_mem_cons.mpr ⟨read.wellFormed ctx, wellFormed ctx⟩

theorem items {α : Type} (S : PartSort α) (settled : n.Settled) {as : List α}
    (h : n.fieldItems name (fun m => S.read m.1) = .ok as) :
    KeptMember n.value (.required name (.list S.shape)) (name, .arr (S.writeAll as)) ∧
      ∀ ctx, ∀ c ∈ Site.each ctx S.part as, c.IsWellFormed :=
  settled.required h fun _ inner has => settled.list S inner.finite has

theorem itemsOrNone {α : Type} (S : PartSort α) (settled : n.Settled) {as : List α}
    (h : n.fieldItemsOrNone name (fun m => S.read m.1) = .ok as) :
    KeptMember n.value (.optional name (.list S.shape)) (name, .arr (S.writeAll as)) ∧
      ∀ ctx, ∀ c ∈ Site.each ctx S.part as, c.IsWellFormed := by
  obtain ⟨o, ho, ⟨⟩⟩ := Except.bind_eq_ok.mp h
  apply settled.optional ho
  · rintro m as inner has rfl
    exact settled.list S inner.finite has
  · rintro rfl
    rw [Option.getD_none, S.writeAll_nil]
    exact ⟨rfl, by simp [Site.each]⟩

/-- A list of lists of guard tests. -/
theorem guards {gs : List (List Expr)} (settled : n.Settled)
    (h : n.fieldItemsOrNone name
      (fun m => m.1.items fun k => Interchange.expr (m.outward k).1) = .ok gs) :
    KeptMember n.value (.optional name (.list (.list .expr)))
        (name, .arr (Expr.guardsToJson gs)) ∧
      ∀ ctx, ∀ c ∈ Site.each ctx .expr gs.flatten, c.IsWellFormed := by
  obtain ⟨o, ho, ⟨⟩⟩ := Except.bind_eq_ok.mp h
  apply settled.optional ho
  · rintro m gs inner hgs rfl
    obtain ⟨vs, hv, items⟩ := items_eq_ok hgs
    have finite := inner.finite
    rw [hv] at finite ⊢
    replace finite := Json.ItemsFinite.of_mem finite
    suffices KeptItems (.list .expr) (Expr.guardsToJson gs) vs ∧
        ∀ ctx, ∀ c ∈ Site.each ctx .expr gs.flatten, c.IsWellFormed from ⟨.list this.1, this.2⟩
    clear h ho hgs hv
    induction items with
    | nil => exact ⟨.nil, by simp [Site.each]⟩
    | @cons v g vs gs item _ ih =>
        obtain ⟨here, rest⟩ := List.forall_mem_cons.mp finite
        obtain ⟨k, rfl, hg⟩ := item
        have read := settled.list .exprs (m := m.outward k) here hg
        obtain ⟨kept, wellFormed⟩ := ih rest
        refine ⟨.cons read.1 kept, ?_⟩
        intro ctx
        rw [List.flatten_cons, Site.each, List.map_append, List.forall_mem_append]
        exact ⟨read.2 ctx, wellFormed ctx⟩
  · rintro rfl
    exact ⟨rfl, by simp [Site.each]⟩

/-- The types of a segment are a list of strings. -/
theorem types {o : Option (List String)} (settled : n.Settled) :
    n.fieldOpt name (fun m => m.1.items fun k => k.1.string) = .ok o →
      KeptMember n.value (.optional name .data)
        (name, match o with
          | none => .null
          | some ts => .arr (ts.map .str)) := by
  intro h
  refine (settled.optional (P := True) h ?_ ?_).1
  · rintro m ts - hts rfl
    obtain ⟨vs, hv, items⟩ := items_eq_ok hts
    have same : ts.map Json.str = vs := by
      clear h hts hv
      induction items with
      | nil => rfl
      | cons item _ ih =>
          obtain ⟨k, rfl, hk⟩ := item
          rw [List.map_cons, ih, string_eq_ok.mp hk]
    rw [hv, ← same]
    exact ⟨.data, trivial⟩
  · rintro rfl
    exact ⟨rfl, trivial⟩

theorem after {a : After} (settled : n.Settled) (h : Interchange.after n = .ok a) :
    Kept .after a.toJson n.value ∧
      ∀ ctx, ∀ c ∈ Site.belowAfter ctx (some a), c.IsWellFormed := by
  unfold Interchange.after at h
  simp only [Except.bind_eq_ok, Except.pure_eq_ok, Except.ok.injEq] at h
  obtain ⟨timeout, htimeout, body, hbody, rfl⟩ := h
  obtain ⟨timeoutKept, timeoutWellFormed⟩ := settled.expr htimeout
  obtain ⟨bodyKept, bodyWellFormed⟩ := settled.items .exprs hbody
  refine ⟨.object rfl (.cons bodyKept (.cons timeoutKept .nil)), ?_⟩
  intro ctx
  exact List.forall_mem_cons.mpr ⟨timeoutWellFormed ctx, bodyWellFormed ctx⟩

theorem afterOpt {o : Option After} (settled : n.Settled)
    (h : n.fieldOpt name (fun m => Interchange.after m.1) = .ok o) :
    KeptMember n.value (.optional name .after) (name, After.optToJson o) ∧
      ∀ ctx, ∀ c ∈ Site.belowAfter ctx o, c.IsWellFormed := by
  apply settled.optional h
  · rintro m a inner ha rfl
    exact inner.after ha
  · rintro rfl
    exact ⟨rfl, by simp [Site.belowAfter]⟩

end Settled

end Node

end Unsugar
