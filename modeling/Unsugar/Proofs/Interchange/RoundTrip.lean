import Unsugar.Proofs.Interchange.Faithful

/-!
# Reading undoes writing

What is read at a node depends on the value there and not on the place, so a part reads back
(`Part.ReadsBack`) if the reader of its sort gives it at every node with the value that it is
written as. Every well-formed part does, by induction over what stands below it
(`Site.readsBack`): each member that the reader asks for is found under its name, and is what the
writer put there.

Main statement: well-formed forms and expressions are read back from what they are written as. What
has been read is well formed and what is desugared stays so, so reading and writing may be repeated
at will (`reading_undoes_writing`).
-/

namespace Unsugar

open Interchange

/-- The part is read back from what it is written as, wherever that stands. -/
def Part.ReadsBack (p : Part) : Prop := ∀ n : Node, n.value = p.toJson → p.IsRead n

namespace Node

variable {n : Node} {name : String}

/-! ## Members that were written -/

/-- Null is no expression. -/
theorem expr_ne_null {e : Expr} (h : Part.ReadsBack (.expr e)) : e.toJson ≠ .null := by
  intro null
  have read := h ⟨.null, []⟩ null.symm
  rw [Part.IsRead, expr] at read
  cases read

theorem field_expr {e : Expr} (found : n.value.get? name = some e.toJson)
    (h : Part.ReadsBack (.expr e)) : n.field name (fun m => expr m.1) = .ok e :=
  field_of_some found (expr_ne_null h) fun m hm => h m.1 hm

/-- A node that is an object has the location of its value, or none. -/
theorem fieldOpt_loc {l : Loc} {u : Json} (found : n.value.get? name = some u)
    (located : l.IsOf n.value) :
    ∃ o, n.fieldOpt "loc" (fun _ => n.loc) = .ok o ∧ o.getD .unknown = l := by
  have absent (h : n.value.get? "loc" = none ∨ n.value.get? "loc" = some .null) :
      n.member? "loc" = .ok none := by
    cases hn : n.value with
    | obj members =>
        rw [hn] at h
        exact member?_of_null hn h
    | _ =>
        rw [hn] at found
        cases found
  rw [Loc.IsOf] at located
  split at located
  · next none =>
      exact ⟨_, fieldOpt_eq_ok.mpr (Or.inr ⟨absent (Or.inl none), rfl⟩), located.symm⟩
  · next null =>
      exact ⟨_, fieldOpt_eq_ok.mpr (Or.inr ⟨absent (Or.inr null), rfl⟩), located.symm⟩
  · next w present here =>
      subst located
      exact ⟨some l, fieldOpt_of_some here present fun _ _ => loc_eq_ok.mpr here, rfl⟩

theorem fieldOpt_expr {o : Option Expr} (found : n.value.get? name = some (Expr.optToJson o))
    (h : ∀ e ∈ o, Part.ReadsBack (.expr e)) : n.fieldOpt name (fun m => expr m.1) = .ok o := by
  cases o with
  | none => exact fieldOpt_of_null found
  | some e =>
      have back := h e rfl
      exact fieldOpt_of_some found (expr_ne_null back) fun m hm => back m.1 hm

section Lists

variable {α : Type} (S : PartSort α) {as : List α}

theorem items_parts {m : n.Inner} (hm : m.1.value = .arr (S.writeAll as))
    (h : ∀ a ∈ as, (S.part a).ReadsBack) : m.items (fun k => S.read k.1) = .ok as := by
  apply items_of_forall₂ hm
  clear hm
  induction as with
  | nil =>
      rw [S.writeAll_nil]
      exact .nil
  | cons a as ih =>
      obtain ⟨here, rest⟩ := List.forall_mem_cons.mp h
      rw [S.writeAll_cons]
      refine .cons ?_ (ih rest)
      intro k hk
      exact S.isRead_iff.mp (here k.1 hk)

theorem fieldItems_parts (found : n.value.get? name = some (.arr (S.writeAll as)))
    (h : ∀ a ∈ as, (S.part a).ReadsBack) :
    n.fieldItems name (fun m => S.read m.1) = .ok as :=
  field_of_some found Json.noConfusion fun _ hm => items_parts S hm h

theorem fieldItemsOrNone_parts (found : n.value.get? name = some (.arr (S.writeAll as)))
    (h : ∀ a ∈ as, (S.part a).ReadsBack) :
    n.fieldItemsOrNone name (fun m => S.read m.1) = .ok as :=
  fieldItemsOrNone_of_some found Json.noConfusion fun _ hm => items_parts S hm h

theorem guards_back {gs : List (List Expr)}
    (found : n.value.get? name = some (.arr (Expr.guardsToJson gs)))
    (h : ∀ e ∈ gs.flatten, Part.ReadsBack (.expr e)) :
    n.fieldItemsOrNone name (fun m => m.1.items fun k => expr (m.outward k).1) = .ok gs := by
  apply fieldItemsOrNone_of_some found Json.noConfusion
  intro m hm
  apply items_of_forall₂ hm
  clear hm found
  induction gs with
  | nil => exact .nil
  | cons g gs ih =>
      rw [List.flatten_cons, List.forall_mem_append] at h
      refine .cons ?_ (ih h.2)
      intro k hk
      exact items_parts .exprs (m := m.outward k) hk h.1

theorem types_back {o : Option (List String)}
    (found : n.value.get? name = some (match o with
      | none => .null
      | some ts => .arr (ts.map .str))) :
    n.fieldOpt name (fun m => m.1.items fun k => k.1.string) = .ok o := by
  cases o with
  | none => exact fieldOpt_of_null found
  | some ts =>
      apply fieldOpt_of_some found Json.noConfusion
      intro m hm
      apply items_of_forall₂ hm
      clear hm found
      induction ts with
      | nil => exact .nil
      | cons t ts ih =>
          refine .cons ?_ ih
          intro k hk
          exact string_eq_ok.mpr hk

end Lists

theorem field_float {x : Float} (found : n.value.get? name = some (.ofFloat x))
    (finite : x.isFinite = true) : n.field name (·.1.float) = .ok x := by
  rw [Json.ofFloat, if_pos finite] at found
  refine field_of_some found Json.noConfusion ?_
  intro m hm
  rw [float, scalar_eq_ok, hm]
  rfl

theorem after_back {a : After} (hn : n.value = a.toJson)
    (h : ∀ e ∈ a.timeout :: a.body, Part.ReadsBack (.expr e)) : after n = .ok a := by
  obtain ⟨timeout, body⟩ := a
  obtain ⟨htimeout, hbody⟩ := List.forall_mem_cons.mp h
  rw [after, field_expr (get?_of_eq hn rfl) htimeout,
    fieldItems_parts .exprs (get?_of_eq hn rfl) hbody]
  rfl

theorem fieldOpt_after {o : Option After} {ctx : Context}
    (found : n.value.get? name = some (After.optToJson o))
    (h : ∀ c ∈ Site.belowAfter ctx o, c.part.ReadsBack) :
    n.fieldOpt name (fun m => after m.1) = .ok o := by
  cases o with
  | none => exact fieldOpt_of_null found
  | some a =>
      obtain ⟨timeout, body⟩ := a
      rw [Site.belowAfter, Site.forall_mem_each] at h
      exact fieldOpt_of_some found Json.noConfusion fun m hm => after_back hm h

end Node

/-! ## Parts -/

namespace Expr

open Node

variable {ctx : Context}

/-- A node of the grammar is written with the tag of its kind. -/
theorem get?_node {e : Expr} {k : Kind} (h : e.kind? = some k) :
    e.toJson.get? "node" = some (.str k.tag) := by
  cases e with
  | lit l v => cases v <;> cases h <;> rfl
  | foreign => cases h
  | _ =>
      cases h
      rfl

/-! ### Kinds by what stands below them

The tag leads to the arm of the kind, and the arm finds its members by name. -/

section Kinds

variable {e : Expr} {k : Kind} {n : Node} (hn : n.value = e.toJson) (hk : e.kind? = some k)

include hn hk

theorem read_leaf (group : k.group = .leaf) (sound : e.label.IsSound) : expr n = .ok e := by
  have found {name : String} {u : Json} (h : e.toJson.get? name = some u) :
      n.value.get? name = some u := get?_of_eq hn h
  rw [expr, tagged (found (get?_node hk))]
  simp only [Except.ok_bind, Kind.ofTag?_tag]
  cases e with
  | lit l v =>
      cases hk
      cases v with
      | atom name | str name =>
          simp only [Literal.kind]
          rw [loc_eq_ok.mpr (found rfl), stringField_eq_ok.mpr (found rfl)]
          rfl
      | integer i =>
          simp only [Literal.kind]
          rw [loc_eq_ok.mpr (found rfl), field_int64_eq_ok.mpr (found rfl)]
          rfl
      | float x =>
          simp only [Literal.kind]
          rw [loc_eq_ok.mpr (found rfl), field_float (found rfl) sound]
          rfl
      | char c =>
          simp only [Literal.kind]
          rw [field_char_eq_ok.mpr (found rfl), loc_eq_ok.mpr (found rfl)]
          rfl
      | nil =>
          simp only [Literal.kind]
          rw [loc_eq_ok.mpr (found rfl)]
          rfl
  | var l name =>
      cases hk
      simp only
      rw [loc_eq_ok.mpr (found rfl), stringField_eq_ok.mpr (found rfl)]
      rfl
  | funRef l name arity =>
      cases hk
      simp only
      rw [loc_eq_ok.mpr (found rfl), stringField_eq_ok.mpr (found rfl),
        field_uint64_eq_ok.mpr (found rfl)]
      rfl
  | recordIndex l name field =>
      cases hk
      simp only
      rw [loc_eq_ok.mpr (found rfl), stringField_eq_ok.mpr (found rfl),
        stringField_eq_ok.mpr (found rfl)]
      rfl
  | foreign => cases hk
  | _ =>
      cases hk
      cases group

theorem read_list (group : k.group = .list)
    (below : ∀ c ∈ Site.belowExpr ctx e, c.part.ReadsBack) : expr n = .ok e := by
  have found {name : String} {u : Json} (h : e.toJson.get? name = some u) :
      n.value.get? name = some u := get?_of_eq hn h
  rw [expr, tagged (found (get?_node hk))]
  simp only [Except.ok_bind, Kind.ofTag?_tag]
  cases e with
  | tuple l es | block l es =>
      simp only [Site.belowExpr, Site.forall_mem_each] at below
      cases hk
      simp only
      rw [loc_eq_ok.mpr (found rfl), fieldItems_parts .exprs (found rfl) below]
      rfl
  | bin l segments =>
      simp only [Site.belowExpr, Site.forall_mem_each] at below
      cases hk
      simp only
      rw [loc_eq_ok.mpr (found rfl), fieldItems_parts .segments (found rfl) below]
      rfl
  | ifs l clauses | closure l clauses =>
      simp only [Site.belowExpr, Site.forall_mem_each] at below
      cases hk
      simp only
      rw [loc_eq_ok.mpr (found rfl), fieldItems_parts .clauses (found rfl) below]
      rfl
  | namedClosure l name clauses =>
      simp only [Site.belowExpr, Site.forall_mem_each] at below
      cases hk
      simp only
      rw [loc_eq_ok.mpr (found rfl), stringField_eq_ok.mpr (found rfl),
        fieldItems_parts .clauses (found rfl) below]
      rfl
  | lit l v =>
      cases hk
      cases v <;> cases group
  | foreign => cases hk
  | _ =>
      cases hk
      cases group

theorem read_operation (group : k.group = .operation)
    (below : ∀ c ∈ Site.belowExpr ctx e, c.part.ReadsBack) : expr n = .ok e := by
  have found {name : String} {u : Json} (h : e.toJson.get? name = some u) :
      n.value.get? name = some u := get?_of_eq hn h
  rw [expr, tagged (found (get?_node hk))]
  simp only [Except.ok_bind, Kind.ofTag?_tag]
  cases e with
  | binOp l op a b =>
      simp only [Site.belowExpr, Site.forall_mem_each, List.forall_mem_cons] at below
      obtain ⟨ha, hb, -⟩ := below
      -- The reader tells the operators apart by the operand, which only unary ones have.
      have binary : n.member? "operand" = .ok none := member?_of_null hn (Or.inl rfl)
      cases hk
      simp only
      rw [stringField_eq_ok.mpr (found rfl), binary]
      simp only [Except.ok_bind]
      rw [loc_eq_ok.mpr (found rfl), field_expr (found rfl) ha, field_expr (found rfl) hb]
      rfl
  | unOp l op a =>
      have ha := below _ List.mem_cons_self
      have operand : n.value.get? "operand" = some a.toJson := found rfl
      obtain ⟨m, hm, unary⟩ := member?_of_some operand (expr_ne_null ha)
      cases hk
      simp only
      rw [stringField_eq_ok.mpr (found rfl), unary]
      simp only [Except.ok_bind]
      rw [loc_eq_ok.mpr (found rfl), show expr m.1 = .ok a from ha m.1 hm]
      rfl
  | lit l v =>
      cases hk
      cases v <;> cases group
  | foreign => cases hk
  | _ =>
      cases hk
      cases group

theorem read_exprs (group : k.group = .exprs)
    (below : ∀ c ∈ Site.belowExpr ctx e, c.part.ReadsBack) : expr n = .ok e := by
  have found {name : String} {u : Json} (h : e.toJson.get? name = some u) :
      n.value.get? name = some u := get?_of_eq hn h
  rw [expr, tagged (found (get?_node hk))]
  simp only [Except.ok_bind, Kind.ofTag?_tag]
  cases e with
  | cons l h t =>
      simp only [Site.belowExpr, Site.forall_mem_each, List.forall_mem_cons] at below
      obtain ⟨hh, ht, -⟩ := below
      cases hk
      simp only
      rw [loc_eq_ok.mpr (found rfl), field_expr (found rfl) hh, field_expr (found rfl) ht]
      rfl
  | remote l m f =>
      simp only [Site.belowExpr, Site.forall_mem_each, List.forall_mem_cons] at below
      obtain ⟨hm, hf, -⟩ := below
      cases hk
      simp only
      rw [loc_eq_ok.mpr (found rfl), field_expr (found rfl) hm, field_expr (found rfl) hf]
      rfl
  | catching l a =>
      simp only [Site.belowExpr, Site.forall_mem_each, List.forall_mem_cons] at below
      cases hk
      simp only
      rw [loc_eq_ok.mpr (found rfl), field_expr (found rfl) below.1]
      rfl
  | remoteFunRef l m name arity =>
      simp only [Site.belowExpr, Site.forall_mem_each, List.forall_mem_cons] at below
      obtain ⟨hm, hname, harity, -⟩ := below
      cases hk
      simp only
      rw [loc_eq_ok.mpr (found rfl), field_expr (found rfl) hm, field_expr (found rfl) hname,
        field_expr (found rfl) harity]
      rfl
  | recordField l a name field =>
      simp only [Site.belowExpr, Site.forall_mem_each, List.forall_mem_cons] at below
      cases hk
      simp only
      rw [loc_eq_ok.mpr (found rfl), field_expr (found rfl) below.1,
        stringField_eq_ok.mpr (found rfl), stringField_eq_ok.mpr (found rfl)]
      rfl
  | bind l pattern value =>
      simp only [Site.belowExpr, List.forall_mem_cons] at below
      obtain ⟨hpattern, hvalue, -⟩ := below
      cases hk
      simp only
      rw [loc_eq_ok.mpr (found rfl), field_expr (found rfl) hpattern, field_expr (found rfl) hvalue]
      rfl
  | lit l v =>
      cases hk
      cases v <;> cases group
  | foreign => cases hk
  | _ =>
      cases hk
      cases group

theorem read_exprAndList (group : k.group = .exprAndList)
    (below : ∀ c ∈ Site.belowExpr ctx e, c.part.ReadsBack) : expr n = .ok e := by
  have found {name : String} {u : Json} (h : e.toJson.get? name = some u) :
      n.value.get? name = some u := get?_of_eq hn h
  rw [expr, tagged (found (get?_node hk))]
  simp only [Except.ok_bind, Kind.ofTag?_tag]
  cases e with
  | call l f args =>
      simp only [Site.belowExpr, Site.forall_mem_each, List.forall_mem_cons] at below
      obtain ⟨hf, hargs⟩ := below
      cases hk
      simp only
      rw [loc_eq_ok.mpr (found rfl), field_expr (found rfl) hf,
        fieldItems_parts .exprs (found rfl) hargs]
      rfl
  | listComp l template qualifiers | binComp l template qualifiers =>
      simp only [Site.belowExpr, Site.forall_mem_each, List.forall_mem_append,
        List.forall_mem_cons] at below
      obtain ⟨⟨ht, -⟩, hqs⟩ := below
      cases hk
      simp only
      rw [loc_eq_ok.mpr (found rfl), field_expr (found rfl) ht,
        fieldItems_parts .qualifiers (found rfl) hqs]
      rfl
  | caseOf l subject clauses =>
      simp only [Site.belowExpr, Site.forall_mem_each, List.forall_mem_append,
        List.forall_mem_cons] at below
      obtain ⟨⟨hs, -⟩, hcs⟩ := below
      cases hk
      simp only
      rw [loc_eq_ok.mpr (found rfl), field_expr (found rfl) hs,
        fieldItems_parts .clauses (found rfl) hcs]
      rfl
  | lit l v =>
      cases hk
      cases v <;> cases group
  | foreign => cases hk
  | _ =>
      cases hk
      cases group

theorem read_sparse (group : k.group = .sparse)
    (below : ∀ c ∈ Site.belowExpr ctx e, c.part.ReadsBack) : expr n = .ok e := by
  have found {name : String} {u : Json} (h : e.toJson.get? name = some u) :
      n.value.get? name = some u := get?_of_eq hn h
  rw [expr, tagged (found (get?_node hk))]
  simp only [Except.ok_bind, Kind.ofTag?_tag]
  cases e with
  | tryOf l body clauses handlers after =>
      simp only [Site.belowExpr, Site.forall_mem_each, List.forall_mem_append] at below
      obtain ⟨⟨⟨hbody, hclauses⟩, hhandlers⟩, hafter⟩ := below
      cases hk
      simp only
      rw [loc_eq_ok.mpr (found rfl), fieldItems_parts .exprs (found rfl) hbody,
        fieldItemsOrNone_parts .clauses (found rfl) hclauses,
        fieldItemsOrNone_parts .clauses (found rfl) hhandlers,
        fieldItemsOrNone_parts .exprs (found rfl) hafter]
      rfl
  | receive l clauses after =>
      simp only [Site.belowExpr, Site.forall_mem_each, List.forall_mem_append] at below
      obtain ⟨hclauses, hafter⟩ := below
      cases hk
      simp only
      rw [loc_eq_ok.mpr (found rfl), fieldItemsOrNone_parts .clauses (found rfl) hclauses,
        fieldOpt_after (found rfl) hafter]
      rfl
  | record l base name fields =>
      simp only [Site.belowExpr, Site.forall_mem_each, List.forall_mem_append,
        Option.mem_toList] at below
      obtain ⟨hbase, hfields⟩ := below
      cases hk
      simp only
      rw [loc_eq_ok.mpr (found rfl), fieldOpt_expr (found rfl) hbase,
        stringField_eq_ok.mpr (found rfl), fieldItems_parts .recordFields (found rfl) hfields]
      rfl
  | map l base entries =>
      simp only [Site.belowExpr, Site.forall_mem_each, List.forall_mem_append,
        Option.mem_toList] at below
      obtain ⟨hbase, hentries⟩ := below
      cases hk
      simp only
      rw [loc_eq_ok.mpr (found rfl), fieldOpt_expr (found rfl) hbase,
        fieldItems_parts .entries (found rfl) hentries]
      rfl
  | field l base name =>
      simp only [Site.belowExpr, Site.forall_mem_each, Option.mem_toList] at below
      cases hk
      simp only
      rw [loc_eq_ok.mpr (found rfl), fieldOpt_expr (found rfl) below,
        stringField_eq_ok.mpr (found rfl)]
      rfl
  | exception l kind pattern stack =>
      simp only [Site.belowExpr, Site.forall_mem_each, List.forall_mem_append, List.forall_mem_cons,
        Option.mem_toList] at below
      obtain ⟨⟨hkind, hpattern, -⟩, hstack⟩ := below
      cases hk
      simp only
      rw [loc_eq_ok.mpr (found rfl), field_expr (found rfl) hkind, field_expr (found rfl) hpattern,
        fieldOpt_expr (found rfl) hstack]
      rfl
  | lit l v =>
      cases hk
      cases v <;> cases group
  | foreign => cases hk
  | _ =>
      cases hk
      cases group

end Kinds

theorem read_foreign {l : Loc} {tag : String} {raw : Json} {n : Node}
    (hn : n.value = raw) (sound : (foreign l tag raw).label.IsSound) :
    expr n = .ok (.foreign l tag raw) := by
  obtain ⟨tagged, unknown, located⟩ := sound
  have outside := Kind.ofTag?_eq_none.mpr unknown
  have found := get?_of_eq hn tagged
  change l.IsOf raw at located
  rw [← hn] at located
  obtain ⟨o, ho, rfl⟩ := fieldOpt_loc found located
  rw [expr, tag?_eq_ok.mpr found]
  simp only [Except.ok_bind, outside]
  rw [ho, hn]
  rfl

/-- An expression is read back if all that stands below it is. -/
theorem readsBack {e : Expr} (sound : e.label.IsSound)
    (below : ∀ c ∈ Site.belowExpr ctx e, c.part.ReadsBack) : Part.ReadsBack (.expr e) := by
  intro n hn
  rw [Part.IsRead]
  cases hk : e.kind? with
  | none =>
      cases e with
      | foreign l tag raw => exact read_foreign hn sound
      | _ => cases hk
  | some k =>
      cases group : k.group with
      | leaf => exact read_leaf hn hk group sound
      | list => exact read_list hn hk group below
      | operation => exact read_operation hn hk group below
      | exprs => exact read_exprs hn hk group below
      | exprAndList => exact read_exprAndList hn hk group below
      | sparse => exact read_sparse hn hk group below

end Expr

section

open Node

variable {ctx : Context}

theorem Clause.readsBack (c : Clause)
    (below : ∀ d ∈ Site.children ⟨ctx, .clause c⟩, d.part.ReadsBack) :
    Part.ReadsBack (.clause c) := by
  intro n hn
  have found {name : String} {u : Json} (h : c.toJson.get? name = some u) :
      n.value.get? name = some u := get?_of_eq hn h
  obtain ⟨l, patterns, guards, body⟩ := c
  simp only [Site.children, List.forall_mem_append, Site.forall_mem_each] at below
  obtain ⟨⟨hpatterns, hguards⟩, hbody⟩ := below
  rw [Part.IsRead, clause, loc_eq_ok.mpr (found rfl),
    fieldItems_parts .exprs (found rfl) hpatterns, guards_back (found rfl) hguards,
    fieldItems_parts .exprs (found rfl) hbody]
  rfl

theorem Segment.readsBack (s : Segment)
    (below : ∀ d ∈ Site.children ⟨ctx, .segment s⟩, d.part.ReadsBack) :
    Part.ReadsBack (.segment s) := by
  intro n hn
  have found {name : String} {u : Json} (h : s.toJson.get? name = some u) :
      n.value.get? name = some u := get?_of_eq hn h
  obtain ⟨l, value, size, types⟩ := s
  simp only [Site.children, List.forall_mem_append, Site.forall_mem_each, List.forall_mem_cons,
    Option.mem_toList] at below
  obtain ⟨⟨hvalue, -⟩, hsize⟩ := below
  rw [Part.IsRead, Interchange.segment, loc_eq_ok.mpr (found rfl), field_expr (found rfl) hvalue,
    fieldOpt_expr (found rfl) hsize, types_back (found rfl)]
  rfl

theorem Qualifier.readsBack (q : Qualifier)
    (below : ∀ d ∈ Site.children ⟨ctx, .qualifier q⟩, d.part.ReadsBack) :
    Part.ReadsBack (.qualifier q) := by
  intro n hn
  have found {name : String} {u : Json} (h : q.toJson.get? name = some u) :
      n.value.get? name = some u := get?_of_eq hn h
  rw [Part.IsRead, qualifier]
  cases q with
  | generate l pattern source | binGenerate l pattern source =>
      simp only [Site.children, Site.forall_mem_each, List.forall_mem_cons] at below
      obtain ⟨hpattern, hsource, -⟩ := below
      rw [tag?_eq_ok.mpr (found rfl)]
      simp only [Except.ok_bind]
      rw [loc_eq_ok.mpr (found rfl), field_expr (found rfl) hpattern,
        field_expr (found rfl) hsource]
      rfl
  | filter test =>
      have htest := below _ List.mem_cons_self
      rw [tag?_eq_ok.mpr (found rfl)]
      simp only [Except.ok_bind]
      rw [field_expr (found rfl) htest]
      rfl

theorem RecordField.readsBack (f : RecordField)
    (below : ∀ d ∈ Site.children ⟨ctx, .recordField f⟩, d.part.ReadsBack) :
    Part.ReadsBack (.recordField f) := by
  intro n hn
  have found {name : String} {u : Json} (h : f.toJson.get? name = some u) :
      n.value.get? name = some u := get?_of_eq hn h
  obtain ⟨l, name, value⟩ := f
  have hvalue := below _ List.mem_cons_self
  rw [Part.IsRead, recordField, loc_eq_ok.mpr (found rfl), stringField_eq_ok.mpr (found rfl),
    field_expr (found rfl) hvalue]
  rfl

theorem Entry.readsBack (e : Entry)
    (below : ∀ d ∈ Site.children ⟨ctx, .entry e⟩, d.part.ReadsBack) :
    Part.ReadsBack (.entry e) := by
  intro n hn
  have found {name : String} {u : Json} (h : e.toJson.get? name = some u) :
      n.value.get? name = some u := get?_of_eq hn h
  obtain ⟨l, key, value⟩ := e
  have hvalue := below _ List.mem_cons_self
  rw [Part.IsRead, entry, loc_eq_ok.mpr (found rfl), stringField_eq_ok.mpr (found rfl),
    field_expr (found rfl) hvalue]
  rfl

end

namespace Site

/-- Well-formed parts are read back from what they are written as. -/
theorem readsBack (s : Site) : s.IsWellFormed → s.part.ReadsBack := by
  induction s using Site.induction with
  | step s ih =>
      intro h
      rw [isWellFormed_iff] at h
      obtain ⟨sound, wellFormed⟩ := h
      have below : ∀ c ∈ s.children, c.part.ReadsBack := fun c hc => ih c hc (wellFormed c hc)
      obtain ⟨ctx, p⟩ := s
      cases p with
      | expr e => exact Expr.readsBack (sound _ rfl) below
      | clause c => exact c.readsBack below
      | segment s => exact s.readsBack below
      | qualifier q => exact q.readsBack below
      | recordField f => exact f.readsBack below
      | entry e => exact e.readsBack below

end Site

/-! ## Forms -/

namespace Form

open Node

theorem readsBack {f : Form} (wellFormed : f.IsWellFormed) {n : Node} (hn : n.value = f.toJson) :
    form n = .ok f := by
  have found {name : String} {u : Json} (h : f.toJson.get? name = some u) :
      n.value.get? name = some u := get?_of_eq hn h
  unfold form
  cases f with
  | file l name line =>
      have tagged : n.value.get? "form" = some (.str "file") := found rfl
      rw [tagged]
      simp only
      rw [loc_eq_ok.mpr (found rfl), stringField_eq_ok.mpr (found rfl),
        field_uint32_eq_ok.mpr (found rfl)]
      rfl
  | function l name arity clauses =>
      have back : ∀ c ∈ clauses, (Part.clause c).ReadsBack := by
        intro c hc
        exact Site.readsBack _ (wellFormed ⟨.undefined, .clause c⟩ (Site.mem_each.mpr ⟨c, hc, rfl⟩))
      have tagged : n.value.get? "form" = some (.str "function") := found rfl
      rw [tagged]
      simp only
      rw [loc_eq_ok.mpr (found rfl), stringField_eq_ok.mpr (found rfl),
        field_uint64_eq_ok.mpr (found rfl), fieldItems_parts .clauses (found rfl) back]
      rfl
  | attr l name value =>
      have tagged : n.value.get? "form" = some (.str "attribute") := found rfl
      rw [tagged]
      simp only
      rw [loc_eq_ok.mpr (found rfl), stringField_eq_ok.mpr (found rfl)]
      -- The value of an attribute is free, and a null is read as the lack of one.
      by_cases null : value = .null
      · subst null
        rw [fieldOpt_of_null (found rfl)]
        rfl
      · rw [fieldOpt_of_some (a := value) (found rfl) null fun m hm => congrArg Except.ok hm]
        rfl
  | eof l =>
      have tagged : n.value.get? "form" = some (.str "eof") := found rfl
      rw [tagged]
      simp only
      rw [loc_eq_ok.mpr (found rfl)]
      rfl
  | other v =>
      change n.value = v at hn
      simp only [IsWellFormed, List.forall_mem_cons, ← hn] at wellFormed
      obtain ⟨noFile, noFunction, noAttribute, noEof, -⟩ := wellFormed
      split
      · next tagged => exact absurd tagged noFile
      · next tagged => exact absurd tagged noFunction
      · next tagged => exact absurd tagged noAttribute
      · next tagged => exact absurd tagged noEof
      · rw [hn]
        rfl

theorem listOfJson_listToJson {fs : List Form} (wellFormed : ∀ f ∈ fs, f.IsWellFormed) :
    listOfJson (listToJson fs) = .ok fs := by
  apply items_of_forall₂ (n := .root (listToJson fs)) rfl
  rw [List.forall₂_map_left_iff, List.forall₂_same]
  intro f hf m hm
  exact readsBack (wellFormed f hf) hm

end Form

/-- Reading undoes writing. Well-formed forms and expressions are read back as they were; the forms
read from a value are well formed, as are well-formed forms after they were desugared; and so to
read and write once more changes nothing. -/
theorem reading_undoes_writing :
    (∀ fs : List Form, (∀ f ∈ fs, f.IsWellFormed) →
      Form.listOfJson (Form.listToJson fs) = .ok fs) ∧
    (∀ e : Expr, e.IsWellFormed → Expr.ofJson e.toJson = .ok e) ∧
    (∀ (v : Json) (fs : List Form), v.IsFinite → Form.listOfJson v = .ok fs →
      (∀ f ∈ fs, f.IsWellFormed) ∧ Form.listOfJson (Form.listToJson fs) = .ok fs) ∧
    (∀ (s : Session) (fs fs' : List Form), (∀ f ∈ fs, f.IsWellFormed) →
      (s.transform fs).1 = .ok fs' →
        (∀ f ∈ fs', f.IsWellFormed) ∧ Form.listOfJson (Form.listToJson fs') = .ok fs') ∧
    ∀ v w : Json, v.IsFinite → Form.listToJson <$> Form.listOfJson v = .ok w →
      Form.listToJson <$> Form.listOfJson w = .ok w := by
  refine ⟨fun fs => Form.listOfJson_listToJson, ?_, ?_, ?_, ?_⟩
  · intro e wellFormed
    exact Site.readsBack _ wellFormed (.root e.toJson) rfl
  · intro v fs finite h
    have wellFormed := (Form.isWellFormed_and_kept_of_listOfJson finite h).1
    exact ⟨wellFormed, Form.listOfJson_listToJson wellFormed⟩
  · intro s fs fs' wellFormed h
    have desugared := Session.isWellFormed_of_transform h wellFormed
    exact ⟨desugared, Form.listOfJson_listToJson desugared⟩
  · intro v w finite h
    obtain ⟨fs, hfs, rfl⟩ := Except.map_eq_ok.mp h
    have wellFormed := (Form.isWellFormed_and_kept_of_listOfJson finite hfs).1
    rw [Form.listOfJson_listToJson wellFormed]
    rfl

/-- A float and an attribute survive, in a unit that is rewritten. -/
theorem reading_undoes_writing_unit :
    let l := Loc.onLine 1
    let x : Expr := .lit l (.float 1.5)
    let forms (body : Expr) : List Form :=
      [.file l "m.erl" 1, .function l "f" 0 [⟨l, [], [[.var l "G"]], [body]⟩],
        .attr l "vsn" .null, .other (.str "text")]
    let sugar : Expr := .map l none [⟨l, "k", x⟩]
    let call : Expr := Container.store (Container.new l) ⟨l, "k", x⟩
    let unknown : Expr := .foreign .unknown "macro" (.obj [("node", .str "macro")])
    Form.listOfJson (Form.listToJson (forms sugar)) = .ok (forms sugar) ∧
    Expr.ofJson (Expr.toJson unknown) = .ok unknown ∧
    (∀ f ∈ forms sugar, f.IsWellFormed) ∧
    (Session.new.transform (forms sugar)).1 = .ok (forms call) ∧
    Form.listOfJson (Form.listToJson (forms call)) = .ok (forms call) ∧
    Form.listToJson <$> Form.listOfJson (Form.listToJson (forms sugar)) =
      .ok (Form.listToJson (forms sugar)) := by
  intro l x forms sugar call unknown
  obtain ⟨units, exprs, read, rewritten, again⟩ := reading_undoes_writing
  have finite : (1.5 : Float).isFinite = true := by decide
  have code : ∀ c ∈ Form.children (.function l "f" 0 [⟨l, [], [[.var l "G"]], [sugar]⟩]),
      c.IsWellFormed := by
    refine List.forall_mem_singleton.mpr ?_
    rw [Site.IsWellFormed, Site.nodes_eq]
    simp [sugar, x, finite, Site.nodes_eq, Site.children, Site.belowExpr, Site.each, Part.label?,
      Expr.label, Entry.label, Expr.head, NodeLabel.IsSound]
  have wellFormed : ∀ f ∈ forms sugar, f.IsWellFormed := by
    simp only [forms, List.forall_mem_cons]
    exact ⟨by simp [Form.IsWellFormed, Form.children], code,
      by simp [Form.IsWellFormed, Form.children], by simp [Form.IsWellFormed, Json.get?], by simp⟩
  have outside : unknown.IsWellFormed := by
    rw [Expr.IsWellFormed, Site.isWellFormed_iff]
    refine ⟨?_, by simp [unknown, Site.children, Site.belowExpr]⟩
    rintro label ⟨⟩
    exact ⟨rfl, by intro k; cases k <;> decide, rfl⟩
  have outcome : (Session.new.transform (forms sugar)).1 = .ok (forms call) := rfl
  have values : (Form.listToJson (forms sugar)).IsFinite := by
    simp [l, forms, sugar, x, finite, Form.listToJson, Form.toJson, Clause.listToJson,
      Clause.toJson, Expr.listToJson, Expr.guardsToJson, Expr.toJson, Expr.optToJson,
      Entry.listToJson, Entry.toJson, Literal.node, Literal.toJson, Json.ofFloat, Json.ofUInt32,
      Loc.onLine, Loc.toJson, Json.IsFinite, Json.ItemsFinite, Json.MembersFinite]
  have back := units _ wellFormed
  have survives := rewritten _ _ _ wellFormed outcome
  refine ⟨back, exprs _ outside, (read _ _ values back).1, outcome, survives.2, ?_⟩
  apply again _ _ values
  rw [back]
  rfl

end Unsugar
