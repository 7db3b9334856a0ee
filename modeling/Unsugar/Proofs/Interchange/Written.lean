import Unsugar.Proofs.Interchange.Parts
import Unsugar.Proofs.Interchange.WellFormed
import Unsugar.Proofs.Json.Everywhere
import Mathlib.Data.String.Basic

/-!
# What is written for a term

The values that are written for nodes are strings, integers, lists and objects in key order; only
doubles and foreign values are of other kinds, and these stand in labels. So a property which all
values of the first kinds have (`HoldsInNodes`) holds everywhere in what is written for a term
exactly if all labels of the term allow it (`Site.everywhere_iff`). Desugaring makes no such labels
of its own, so it keeps the property (`Session.holds_of_transform`).
-/

namespace Unsugar

open Json

/-! ## Properties of all that is written -/

/-- A property that values have which are written for nodes, doubles and foreign values apart. -/
structure Json.HoldsInNodes (p : Json → Prop) : Prop where
  null : p .null
  str (s : String) : p (.str s)
  int (n : WideInt) : p (.int n)
  arr (items : List Json) : p (.arr items)
  obj {members : List (String × Json)} (sorted : Assoc.Sorted members) : p (.obj members)

/-- The property holds of what a node holds of its own that is a double or a foreign value. -/
def NodeLabel.Holds (p : Json → Prop) : NodeLabel → Prop
  | ⟨_, .lit (.float x)⟩ => p (.ofFloat x)
  | ⟨_, .foreign _ raw⟩ => raw.Everywhere p
  | _ => True

variable {p : Json → Prop}

theorem Loc.everywhere_toJson (nodes : HoldsInNodes p) (l : Loc) : l.toJson.Everywhere p := by
  unfold Loc.toJson
  cases l.column with
  | none => exact nodes.int _
  | some column =>
      rw [everywhere_arr]
      exact ⟨nodes.arr _, by simp [Json.ofUInt32, Everywhere, nodes.int]⟩

namespace PartSort

theorem forall_mem_writeAll {α : Type} (S : PartSort α) {q : Json → Prop} {as : List α} :
    (∀ v ∈ S.writeAll as, q v) ↔ ∀ a ∈ as, q (S.part a).toJson := by
  induction as with
  | nil => simp [S.writeAll_nil]
  | cons a as ih => simp [S.writeAll_cons, ih]

/-- A list of parts has the property if the parts have it. -/
theorem everywhere_list (nodes : HoldsInNodes p) {α : Type} (S : PartSort α) {as : List α} :
    (Json.arr (S.writeAll as)).Everywhere p ↔ ∀ a ∈ as, (S.part a).toJson.Everywhere p := by
  rw [everywhere_arr, S.forall_mem_writeAll]
  exact and_iff_right (nodes.arr _)

end PartSort

theorem everywhere_exprs (nodes : HoldsInNodes p) {es : List Expr} :
    (Json.arr (Expr.listToJson es)).Everywhere p ↔ ∀ e ∈ es, e.toJson.Everywhere p :=
  PartSort.exprs.everywhere_list nodes

theorem everywhere_optToJson (nodes : HoldsInNodes p) {o : Option Expr} :
    (Expr.optToJson o).Everywhere p ↔ ∀ e ∈ o.toList, e.toJson.Everywhere p := by
  cases o with
  | none => simp [Expr.optToJson, Everywhere, nodes.null]
  | some e => simp [Expr.optToJson]

theorem everywhere_guards (nodes : HoldsInNodes p) {gs : List (List Expr)} :
    (Json.arr (Expr.guardsToJson gs)).Everywhere p ↔
      ∀ e ∈ gs.flatten, e.toJson.Everywhere p := by
  rw [everywhere_arr, and_iff_right (nodes.arr _)]
  induction gs with
  | nil => simp [Expr.guardsToJson]
  | cons g gs ih =>
      rw [Expr.guardsToJson, List.forall_mem_cons, ih, everywhere_exprs nodes, List.flatten_cons,
        List.forall_mem_append]

/-- An object of a node has the property if its members have it. -/
theorem everywhere_node (nodes : HoldsInNodes p) {members : List (String × Json)}
    (sorted : Assoc.Sorted members) :
    (Json.obj members).Everywhere p ↔ ∀ m ∈ members, m.2.Everywhere p := by
  rw [everywhere_obj, and_iff_right (nodes.obj sorted)]

theorem everywhere_clauses (nodes : HoldsInNodes p) {cs : List Clause} :
    (Json.arr (Clause.listToJson cs)).Everywhere p ↔ ∀ c ∈ cs, c.toJson.Everywhere p :=
  PartSort.clauses.everywhere_list nodes

theorem everywhere_segments (nodes : HoldsInNodes p) {ss : List Segment} :
    (Json.arr (Segment.listToJson ss)).Everywhere p ↔ ∀ s ∈ ss, s.toJson.Everywhere p :=
  PartSort.segments.everywhere_list nodes

theorem everywhere_qualifiers (nodes : HoldsInNodes p) {qs : List Qualifier} :
    (Json.arr (Qualifier.listToJson qs)).Everywhere p ↔ ∀ q ∈ qs, q.toJson.Everywhere p :=
  PartSort.qualifiers.everywhere_list nodes

theorem everywhere_recordFields (nodes : HoldsInNodes p) {fs : List RecordField} :
    (Json.arr (RecordField.listToJson fs)).Everywhere p ↔ ∀ f ∈ fs, f.toJson.Everywhere p :=
  PartSort.recordFields.everywhere_list nodes

theorem everywhere_entries (nodes : HoldsInNodes p) {es : List Entry} :
    (Json.arr (Entry.listToJson es)).Everywhere p ↔ ∀ e ∈ es, e.toJson.Everywhere p :=
  PartSort.entries.everywhere_list nodes

theorem everywhere_after (nodes : HoldsInNodes p) (ctx : Context) {o : Option After} :
    (After.optToJson o).Everywhere p ↔
      ∀ c ∈ Site.belowAfter ctx o, c.part.toJson.Everywhere p := by
  cases o with
  | none => simp [After.optToJson, Everywhere, nodes.null, Site.belowAfter]
  | some a =>
      obtain ⟨timeout, body⟩ := a
      rw [After.optToJson, After.toJson,
        everywhere_node nodes (by simp [Assoc.Sorted, -String.lt_iff_ltb])]
      simp [Site.belowAfter, Site.forall_mem_each, Part.toJson, everywhere_exprs nodes, and_comm]

theorem everywhere_ofFloat {x : Float} :
    (Json.ofFloat x).Everywhere p ↔ p (.ofFloat x) := by
  unfold Json.ofFloat
  split <;> rfl

theorem Literal.everywhere_node (nodes : HoldsInNodes p) (l : Loc) (v : Literal) :
    (v.node l).Everywhere p ↔ NodeLabel.Holds p ⟨l, .lit v⟩ := by
  have data (s : String) : (Json.str s).Everywhere p := nodes.str s
  have number (n : WideInt) : (Json.int n).Everywhere p := nodes.int n
  cases v
  all_goals
    simp only [Literal.node]
    rw [Unsugar.everywhere_node nodes (by simp [Assoc.Sorted, -String.lt_iff_ltb])]
    simp [Literal.toJson, NodeLabel.Holds, data, number, l.everywhere_toJson nodes,
      everywhere_ofFloat]

theorem Expr.everywhere_toJson (nodes : HoldsInNodes p) (ctx : Context) (e : Expr) :
    e.toJson.Everywhere p ↔ e.label.Holds p ∧
      ∀ c ∈ Site.belowExpr ctx e, c.part.toJson.Everywhere p := by
  have data (s : String) : (Json.str s).Everywhere p := nodes.str s
  have number (n : WideInt) : (Json.int n).Everywhere p := nodes.int n
  have loc (l : Loc) : l.toJson.Everywhere p := l.everywhere_toJson nodes
  cases e
  case lit l v =>
    simp [Expr.toJson, v.everywhere_node nodes l, label, Expr.loc, head, Site.belowExpr]
  case foreign l tag raw => simp [Expr.toJson, label, head, NodeLabel.Holds, Site.belowExpr]
  all_goals
    rw [Expr.toJson, everywhere_node nodes (by simp [Assoc.Sorted, -String.lt_iff_ltb])]
    simp only [label, head, NodeLabel.Holds, Site.belowExpr, Site.forall_mem_each,
      List.forall_mem_cons, List.forall_mem_append, Part.toJson, data, number, loc,
      everywhere_exprs nodes, everywhere_clauses nodes, everywhere_segments nodes,
      everywhere_qualifiers nodes, everywhere_recordFields nodes, everywhere_entries nodes,
      everywhere_optToJson nodes, everywhere_after nodes ctx, List.not_mem_nil, false_imp_iff,
      implies_true, and_true, true_and]
  -- The members stand in key order, the children in the order of the fields.
  all_goals tauto

/-- What is written for a site has the property if the label of the site allows it and what is
written for its children has it. -/
theorem Site.everywhere_toJson (nodes : HoldsInNodes p) (s : Site) :
    s.part.toJson.Everywhere p ↔ (∀ label ∈ s.part.label?, label.Holds p) ∧
      ∀ c ∈ s.children, c.part.toJson.Everywhere p := by
  have data (s : String) : (Json.str s).Everywhere p := nodes.str s
  have loc (l : Loc) : l.toJson.Everywhere p := l.everywhere_toJson nodes
  obtain ⟨ctx, part⟩ := s
  cases part with
  | expr e => simpa [Part.toJson, Part.label?, children] using e.everywhere_toJson nodes ctx
  | clause c =>
      obtain ⟨l, patterns, guards, body⟩ := c
      rw [Part.toJson, Clause.toJson,
        everywhere_node nodes (by simp [Assoc.Sorted, -String.lt_iff_ltb])]
      simp only [Part.label?, children, forall_mem_each, Part.toJson, List.forall_mem_cons,
        List.forall_mem_append, everywhere_exprs nodes, everywhere_guards nodes, loc]
      simp [NodeLabel.Holds]
      tauto
  | segment s =>
      obtain ⟨l, e, size, types⟩ := s
      have null : Json.null.Everywhere p := nodes.null
      have names (ts : List String) : (Json.arr (ts.map .str)).Everywhere p :=
        everywhere_arr.mpr ⟨nodes.arr _, List.forall_mem_map.mpr fun t _ => data t⟩
      cases types
      all_goals
        rw [Part.toJson, Segment.toJson,
          everywhere_node nodes (by simp [Assoc.Sorted, -String.lt_iff_ltb])]
        simp only [Part.label?, children, forall_mem_each, Part.toJson, List.forall_mem_cons,
          List.forall_mem_append, everywhere_optToJson nodes, null, names, loc]
        simp [NodeLabel.Holds]
        tauto
  | qualifier q =>
      cases q
      all_goals
        rw [Part.toJson, Qualifier.toJson,
          everywhere_node nodes (by simp [Assoc.Sorted, -String.lt_iff_ltb])]
        simp [Part.label?, children, forall_mem_each, Part.toJson, loc, data, NodeLabel.Holds]
  | recordField f =>
      obtain ⟨l, name, e⟩ := f
      rw [Part.toJson, RecordField.toJson,
        everywhere_node nodes (by simp [Assoc.Sorted, -String.lt_iff_ltb])]
      simp [Part.label?, children, forall_mem_each, Part.toJson, loc, data, NodeLabel.Holds]
  | entry e =>
      obtain ⟨l, key, e⟩ := e
      rw [Part.toJson, Entry.toJson,
        everywhere_node nodes (by simp [Assoc.Sorted, -String.lt_iff_ltb])]
      simp [Part.label?, children, forall_mem_each, Part.toJson, loc, data, NodeLabel.Holds,
        Entry.label]

/-- What is written for a term has the property exactly if all labels of the term allow it. -/
theorem Site.everywhere_iff (nodes : HoldsInNodes p) (s : Site) :
    s.part.toJson.Everywhere p ↔ ∀ n ∈ s.nodes, ∀ label ∈ n.part.label?, label.Holds p := by
  induction s using Site.induction with
  | step s ih =>
      rw [everywhere_toJson nodes, forall_mem_nodes]
      exact and_congr_right fun _ => forall₂_congr ih

/-! ## Forms -/

/-- The property holds of everything in the form that is a double or came from outside. -/
def Form.Holds (p : Json → Prop) : Form → Prop
  | .attr _ _ v | .other v => v.Everywhere p
  | f => ∀ c ∈ f.children, ∀ n ∈ c.nodes, ∀ label ∈ n.part.label?, label.Holds p

namespace Form

theorem everywhere_toJson (nodes : HoldsInNodes p) (f : Form) :
    f.toJson.Everywhere p ↔ f.Holds p := by
  have data (s : String) : (Json.str s).Everywhere p := nodes.str s
  have number (n : WideInt) : (Json.int n).Everywhere p := nodes.int n
  have loc (l : Loc) : l.toJson.Everywhere p := l.everywhere_toJson nodes
  cases f with
  | file l name line =>
      rw [toJson, everywhere_node nodes (by simp [Assoc.Sorted, -String.lt_iff_ltb])]
      simp [Holds, children, data, number, loc, Json.ofUInt32]
  | function l name arity cs =>
      rw [toJson, everywhere_node nodes (by simp [Assoc.Sorted, -String.lt_iff_ltb])]
      simp only [Holds, children, Site.forall_mem_each, ← Site.everywhere_iff nodes, Part.toJson]
      simp [data, number, loc, everywhere_clauses nodes]
  | attr l name v =>
      rw [toJson, everywhere_node nodes (by simp [Assoc.Sorted, -String.lt_iff_ltb])]
      simp [Holds, data, loc]
  | eof l =>
      rw [toJson, everywhere_node nodes (by simp [Assoc.Sorted, -String.lt_iff_ltb])]
      simp [Holds, children, data, loc]
  | other v => rfl

theorem everywhere_listToJson (nodes : HoldsInNodes p) {fs : List Form} :
    (listToJson fs).Everywhere p ↔ ∀ f ∈ fs, f.Holds p := by
  rw [listToJson, everywhere_arr, and_iff_right (nodes.arr _), List.forall_mem_map]
  exact forall₂_congr fun f _ => f.everywhere_toJson nodes

theorem holds_of_desugar {f f' : Form} (holds : f.Holds p) (h : f.desugar = .ok f') :
    f'.Holds p := by
  have calls : Site.HoldsInCalls fun n => ∀ label ∈ n.part.label?, label.Holds p := by
    constructor <;> simp [Part.label?, Expr.label, Expr.head, NodeLabel.Holds]
  cases f with
  | function l name arity cs =>
      have children : ∀ c ∈ f'.children, ∀ n ∈ c.nodes, ∀ label ∈ n.part.label?, label.Holds p := by
        refine Site.forall_outcomes (desugar_ok h) fun c hc t ht => ?_
        refine Site.forall_mem_nodes_of_desugar calls ?_ c (holds c hc) t ht
        intro s t here label _ _
        rwa [label]
      rw [desugar, Desugared.within_eq_ok] at h
      obtain ⟨cs', -, h⟩ := Except.bind_eq_ok.mp h
      cases h
      exact children
  | _ =>
      cases h
      exact holds

end Form

theorem Session.holds_of_transform {s : Session} {fs fs' : List Form}
    (h : (s.transform fs).1 = .ok fs') (holds : ∀ f ∈ fs, f.Holds p) : ∀ f ∈ fs', f.Holds p := by
  rw [transform_eq_ok_iff] at h
  induction h with
  | nil => simp
  | cons hf _ ih =>
      obtain ⟨here, rest⟩ := List.forall_mem_cons.mp holds
      exact List.forall_mem_cons.mpr ⟨Form.holds_of_desugar here hf, ih rest⟩

end Unsugar
