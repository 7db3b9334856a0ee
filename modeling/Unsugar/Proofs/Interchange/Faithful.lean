import Unsugar.Proofs.Interchange.Slots

/-!
# Reading neither invents nor alters

The reader is gone through once, kind by kind: each arm reads the members that the schema names for
the kind, and the writer puts just these members into the object again. From this it follows, by
induction on the size of the value, that what is read represents the value (`represents_of_isRead`).

Main statement: the forms read from a value are written as the value itself, save for members that
the schema does not name and members that may be absent (`reading_keeps_data`).
-/

namespace Unsugar

open Interchange

theorem Part.isWellFormed_expr {e : Expr} (sound : e.label.IsSound)
    (below : ∀ ctx, ∀ c ∈ Site.belowExpr ctx e, c.IsWellFormed) :
    Part.IsWellFormed (.expr e) := by
  intro ctx
  rw [Site.isWellFormed_iff]
  refine ⟨?_, below ctx⟩
  rintro label ⟨⟩
  exact sound

namespace Node.Settled

variable {n : Node}

/-- A node outside the grammar is taken whole. -/
theorem foreign {l : Option Loc} {tag : String} (tagged : n.tag? "node" = .ok (some tag))
    (unknown : Kind.ofTag? tag = none) (hl : n.fieldOpt "loc" (fun _ => n.loc) = .ok l) :
    Part.Represents (.expr (.foreign (l.getD .unknown) tag n.value)) n.value := by
  have found := tag?_eq_ok.mp tagged
  constructor
  · apply Part.isWellFormed_expr
    · refine ⟨found, Kind.ofTag?_eq_none.mp unknown, ?_⟩
      rcases fieldOpt_eq_ok.mp hl with ⟨m, l, hm, here, rfl⟩ | ⟨hm, rfl⟩
      · rw [Loc.IsOf, loc_eq_ok.mp here]
        obtain ⟨line, column⟩ := l
        cases column <;> rfl
      · rcases member?_eq_none hm with absent | absent <;> rw [Loc.IsOf, absent] <;> rfl
    · simp [Site.belowExpr]
  · have outside : Shape.slots? .expr n.value = none := by
      simp [Shape.slots?, Shape.tag?, found, unknown]
    exact .foreign outside

/-- A node of the grammar is kept member by member. -/
theorem known {e : Expr} {k : Kind} {ws : List (String × Json)}
    (tagged : n.value.get? "node" = some (.str k.tag)) (written : e.toJson = .obj ws)
    (members : KeptMembers n.value (k.slots (Shape.present n.value "operand")) ws)
    (sound : e.label.IsSound) (below : ∀ ctx, ∀ c ∈ Site.belowExpr ctx e, c.IsWellFormed) :
    Part.Represents (.expr e) n.value := by
  refine ⟨Part.isWellFormed_expr sound below, ?_⟩
  rw [Part.toJson, written]
  refine .object ?_ members
  simp [Part.shape, Shape.slots?, Shape.tag?, tagged, Kind.ofTag?_tag]

theorem leaf {e : Expr} {k : Kind} {ws : List (String × Json)}
    (tagged : n.value.get? "node" = some (.str k.tag)) (written : e.toJson = .obj ws)
    (members : KeptMembers n.value (k.slots (Shape.present n.value "operand")) ws)
    (sound : e.label.IsSound) (bare : ∀ ctx, Site.belowExpr ctx e = []) :
    Part.Represents (.expr e) n.value := by
  apply known tagged written members sound
  intro ctx
  rw [bare]
  exact List.forall_mem_nil _

/-! ## Kinds by what stands below them

The reads of an arm stand in the order of the reader, the members in that of the keys. -/

section Kinds

variable {e : Expr} {k : Kind}

theorem represents_leaf (settled : n.Settled)
    (tagged : n.value.get? "node" = some (.str k.tag)) (group : k.group = .leaf)
    (h : Interchange.expr n = .ok e) : Part.Represents (.expr e) n.value := by
  have node := keptMember_data tagged
  unfold Interchange.expr at h
  simp only [Node.tagged tagged, Except.ok_bind, Kind.ofTag?_tag] at h
  cases k with
  | atom | string =>
      simp only [Except.bind_eq_ok, Except.pure_eq_ok, Except.ok.injEq] at h
      obtain ⟨l, hl, s, hs, rfl⟩ := h
      exact leaf tagged rfl (.cons (keptMember_loc hl) (.cons node (.cons (keptMember_string hs)
        .nil))) trivial fun _ => rfl
  | integer =>
      simp only [Except.bind_eq_ok, Except.pure_eq_ok, Except.ok.injEq] at h
      obtain ⟨l, hl, i, hi, rfl⟩ := h
      exact leaf tagged rfl (.cons (keptMember_loc hl) (.cons node (.cons (keptMember_data
        (field_int64_eq_ok.mp hi)) .nil))) trivial fun _ => rfl
  | float =>
      simp only [Except.bind_eq_ok, Except.pure_eq_ok, Except.ok.injEq] at h
      obtain ⟨l, hl, x, hx, rfl⟩ := h
      obtain ⟨valueKept, finite⟩ := settled.float hx
      exact leaf tagged rfl (.cons (keptMember_loc hl) (.cons node (.cons valueKept .nil))) finite
        fun _ => rfl
  | char =>
      simp only [Except.bind_eq_ok, Except.pure_eq_ok, Except.ok.injEq] at h
      obtain ⟨c, hc, l, hl, rfl⟩ := h
      exact leaf tagged rfl (.cons (keptMember_loc hl) (.cons node (.cons (keptMember_data
        (field_char_eq_ok.mp hc)) .nil))) trivial fun _ => rfl
  | nil =>
      simp only [Except.bind_eq_ok, Except.pure_eq_ok, Except.ok.injEq] at h
      obtain ⟨l, hl, rfl⟩ := h
      exact leaf tagged rfl (.cons (keptMember_loc hl) (.cons node .nil)) trivial fun _ => rfl
  | var =>
      simp only [Except.bind_eq_ok, Except.pure_eq_ok, Except.ok.injEq] at h
      obtain ⟨l, hl, name, hname, rfl⟩ := h
      exact leaf tagged rfl (.cons (keptMember_loc hl) (.cons (keptMember_string hname) (.cons node
        .nil))) trivial fun _ => rfl
  | funRef =>
      simp only [Except.bind_eq_ok, Except.pure_eq_ok, Except.ok.injEq] at h
      obtain ⟨l, hl, name, hname, arity, harity, rfl⟩ := h
      exact leaf tagged rfl (.cons (keptMember_data (field_uint64_eq_ok.mp harity)) (.cons
        (keptMember_loc hl) (.cons (keptMember_string hname) (.cons node .nil)))) trivial fun _ =>
        rfl
  | recordIndex =>
      simp only [Except.bind_eq_ok, Except.pure_eq_ok, Except.ok.injEq] at h
      obtain ⟨l, hl, name, hname, field, hfield, rfl⟩ := h
      exact leaf tagged rfl (.cons (keptMember_string hfield) (.cons (keptMember_loc hl) (.cons
        (keptMember_string hname) (.cons node .nil)))) trivial fun _ => rfl
  | _ => cases group

/-- A node that holds a list and nothing else. -/
theorem represents_items {α : Type} (S : PartSort α) {name : String} {build : Loc → List α → Expr}
    (settled : n.Settled) (tagged : n.value.get? "node" = some (.str k.tag))
    (h : (do return build (← n.loc) (← n.fieldItems name fun m => S.read m.1)) = .ok e)
    (slots : k.slots (Shape.present n.value "operand") =
      [.required name (.list S.shape), .loc, .node])
    (written : ∀ l as, (build l as).toJson =
      .obj [(name, .arr (S.writeAll as)), ("loc", l.toJson), ("node", .str k.tag)])
    (sound : ∀ l as, (build l as).label.IsSound)
    (children : ∀ ctx l as, Site.belowExpr ctx (build l as) = Site.each ctx S.part as) :
    Part.Represents (.expr e) n.value := by
  simp only [Except.bind_eq_ok, Except.pure_eq_ok, Except.ok.injEq] at h
  obtain ⟨l, hl, as, has, rfl⟩ := h
  obtain ⟨kept, wellFormed⟩ := settled.items S has
  have members : KeptMembers n.value [.required name (.list S.shape), .loc, .node] _ :=
    .cons kept (.cons (keptMember_loc hl) (.cons (keptMember_data tagged) .nil))
  refine known tagged (written l as) (slots ▸ members) (sound l as) ?_
  intro ctx
  rw [children]
  exact wellFormed ctx

theorem represents_list (settled : n.Settled)
    (tagged : n.value.get? "node" = some (.str k.tag)) (group : k.group = .list)
    (h : Interchange.expr n = .ok e) : Part.Represents (.expr e) n.value := by
  unfold Interchange.expr at h
  simp only [Node.tagged tagged, Except.ok_bind, Kind.ofTag?_tag] at h
  cases k with
  | tuple | block =>
      exact settled.represents_items .exprs tagged h rfl (fun _ _ => rfl) (fun _ _ => trivial)
        fun _ _ _ => rfl
  | bin =>
      exact settled.represents_items .segments tagged h rfl (fun _ _ => rfl) (fun _ _ => trivial)
        fun _ _ _ => rfl
  | ifs | closure =>
      exact settled.represents_items .clauses tagged h rfl (fun _ _ => rfl) (fun _ _ => trivial)
        fun _ _ _ => rfl
  | namedClosure =>
      simp only [Except.bind_eq_ok, Except.pure_eq_ok, Except.ok.injEq] at h
      obtain ⟨l, hl, name, hname, clauses, hclauses, rfl⟩ := h
      obtain ⟨clausesKept, clausesSound⟩ := settled.items .clauses hclauses
      refine known tagged rfl (.cons clausesKept (.cons (keptMember_loc hl) (.cons
        (keptMember_string hname) (.cons (keptMember_data tagged) .nil)))) trivial ?_
      intro ctx
      exact clausesSound ctx
  | _ => cases group

theorem represents_operation (settled : n.Settled)
    (tagged : n.value.get? "node" = some (.str k.tag)) (group : k.group = .operation)
    (h : Interchange.expr n = .ok e) : Part.Represents (.expr e) n.value := by
  have node := keptMember_data tagged
  unfold Interchange.expr at h
  simp only [Node.tagged tagged, Except.ok_bind, Kind.ofTag?_tag] at h
  cases k with
  | op =>
      obtain ⟨op, hop, h⟩ := Except.bind_eq_ok.mp h
      obtain ⟨operand?, hoperand?, h⟩ := Except.bind_eq_ok.mp h
      -- The operand decides which arm was taken, and also which members the schema names.
      cases operand? with
      | some m =>
          have unary := present_of_member? hoperand?
          simp only [Except.bind_eq_ok, Except.pure_eq_ok, Except.ok.injEq] at h
          obtain ⟨l, hl, operand, hoperand, rfl⟩ := h
          obtain ⟨operandKept, operandSound⟩ := settled.expr (field_eq_ok.mpr ⟨m, hoperand?,
            hoperand⟩)
          have members : KeptMembers n.value (Kind.op.slots true) _ :=
            .cons (keptMember_loc hl) (.cons node (.cons (keptMember_string hop)
              (.cons operandKept .nil)))
          refine known tagged rfl (unary ▸ members) trivial ?_
          intro ctx
          exact List.forall_mem_singleton.mpr (operandSound ctx)
      | none =>
          have binary := not_present_of_member? hoperand?
          simp only [Except.bind_eq_ok, Except.pure_eq_ok, Except.ok.injEq] at h
          obtain ⟨l, hl, left, hleft, right, hright, rfl⟩ := h
          obtain ⟨leftKept, leftSound⟩ := settled.expr hleft
          obtain ⟨rightKept, rightSound⟩ := settled.expr hright
          have members : KeptMembers n.value (Kind.op.slots false) _ :=
            .cons leftKept (.cons (keptMember_loc hl) (.cons node (.cons (keptMember_string hop)
              (.cons rightKept .nil))))
          refine known tagged rfl (binary ▸ members) trivial ?_
          intro ctx
          exact List.forall_mem_cons.mpr ⟨leftSound ctx, List.forall_mem_singleton.mpr (rightSound
            ctx)⟩
  | _ => cases group

theorem represents_exprs (settled : n.Settled)
    (tagged : n.value.get? "node" = some (.str k.tag)) (group : k.group = .exprs)
    (h : Interchange.expr n = .ok e) : Part.Represents (.expr e) n.value := by
  have node := keptMember_data tagged
  unfold Interchange.expr at h
  simp only [Node.tagged tagged, Except.ok_bind, Kind.ofTag?_tag] at h
  cases k with
  | cons =>
      simp only [Except.bind_eq_ok, Except.pure_eq_ok, Except.ok.injEq] at h
      obtain ⟨l, hl, head, hhead, tail, htail, rfl⟩ := h
      obtain ⟨headKept, headSound⟩ := settled.expr hhead
      obtain ⟨tailKept, tailSound⟩ := settled.expr htail
      refine known tagged rfl (.cons headKept (.cons (keptMember_loc hl) (.cons node (.cons tailKept
        .nil)))) trivial ?_
      intro ctx
      exact List.forall_mem_cons.mpr ⟨headSound ctx, List.forall_mem_singleton.mpr (tailSound ctx)⟩
  | remote =>
      simp only [Except.bind_eq_ok, Except.pure_eq_ok, Except.ok.injEq] at h
      obtain ⟨l, hl, module, hmodule, function, hfunction, rfl⟩ := h
      obtain ⟨moduleKept, moduleSound⟩ := settled.expr hmodule
      obtain ⟨functionKept, functionSound⟩ := settled.expr hfunction
      refine known tagged rfl (.cons functionKept (.cons (keptMember_loc hl) (.cons moduleKept
        (.cons node .nil)))) trivial ?_
      intro ctx
      exact List.forall_mem_cons.mpr ⟨moduleSound ctx, List.forall_mem_singleton.mpr (functionSound
        ctx)⟩
  | catching =>
      simp only [Except.bind_eq_ok, Except.pure_eq_ok, Except.ok.injEq] at h
      obtain ⟨l, hl, body, hbody, rfl⟩ := h
      obtain ⟨bodyKept, bodySound⟩ := settled.expr hbody
      refine known tagged rfl (.cons bodyKept (.cons (keptMember_loc hl) (.cons node .nil))) trivial
        ?_
      intro ctx
      exact List.forall_mem_singleton.mpr (bodySound ctx)
  | remoteFunRef =>
      simp only [Except.bind_eq_ok, Except.pure_eq_ok, Except.ok.injEq] at h
      obtain ⟨l, hl, module, hmodule, name, hname, arity, harity, rfl⟩ := h
      obtain ⟨moduleKept, moduleSound⟩ := settled.expr hmodule
      obtain ⟨nameKept, nameSound⟩ := settled.expr hname
      obtain ⟨arityKept, aritySound⟩ := settled.expr harity
      refine known tagged rfl (.cons arityKept (.cons (keptMember_loc hl) (.cons moduleKept (.cons
        nameKept (.cons node .nil))))) trivial ?_
      intro ctx
      exact List.forall_mem_cons.mpr ⟨moduleSound ctx, List.forall_mem_cons.mpr ⟨nameSound ctx,
        List.forall_mem_singleton.mpr (aritySound ctx)⟩⟩
  | recordField =>
      simp only [Except.bind_eq_ok, Except.pure_eq_ok, Except.ok.injEq] at h
      obtain ⟨l, hl, record, hrecord, name, hname, field, hfield, rfl⟩ := h
      obtain ⟨recordKept, recordSound⟩ := settled.expr hrecord
      refine known tagged rfl (.cons (keptMember_string hfield) (.cons (keptMember_loc hl) (.cons
        (keptMember_string hname) (.cons node (.cons recordKept .nil))))) trivial ?_
      intro ctx
      exact List.forall_mem_singleton.mpr (recordSound ctx)
  | bind =>
      simp only [Except.bind_eq_ok, Except.pure_eq_ok, Except.ok.injEq] at h
      obtain ⟨l, hl, pattern, hpattern, value, hvalue, rfl⟩ := h
      obtain ⟨patternKept, patternSound⟩ := settled.expr hpattern
      obtain ⟨valueKept, valueSound⟩ := settled.expr hvalue
      refine known tagged rfl (.cons valueKept (.cons (keptMember_loc hl) (.cons node (.cons
        patternKept .nil)))) trivial ?_
      -- The left side has a role of its own, whatever the role of the match.
      intro ctx
      exact List.forall_mem_cons.mpr ⟨patternSound .pattern, List.forall_mem_singleton.mpr
        (valueSound ctx)⟩
  | _ => cases group

theorem represents_exprAndList (settled : n.Settled)
    (tagged : n.value.get? "node" = some (.str k.tag)) (group : k.group = .exprAndList)
    (h : Interchange.expr n = .ok e) : Part.Represents (.expr e) n.value := by
  have node := keptMember_data tagged
  unfold Interchange.expr at h
  simp only [Node.tagged tagged, Except.ok_bind, Kind.ofTag?_tag] at h
  cases k with
  | call =>
      simp only [Except.bind_eq_ok, Except.pure_eq_ok, Except.ok.injEq] at h
      obtain ⟨l, hl, function, hfunction, args, hargs, rfl⟩ := h
      obtain ⟨functionKept, functionSound⟩ := settled.expr hfunction
      obtain ⟨argsKept, argsSound⟩ := settled.items .exprs hargs
      refine known tagged rfl (.cons argsKept (.cons functionKept (.cons (keptMember_loc hl) (.cons
        node .nil)))) trivial ?_
      intro ctx
      exact List.forall_mem_cons.mpr ⟨functionSound ctx, argsSound ctx⟩
  | listComp | binComp =>
      simp only [Except.bind_eq_ok, Except.pure_eq_ok, Except.ok.injEq] at h
      obtain ⟨l, hl, template, htemplate, qualifiers, hqualifiers, rfl⟩ := h
      obtain ⟨templateKept, templateSound⟩ := settled.expr htemplate
      obtain ⟨qualifiersKept, qualifiersSound⟩ := settled.items .qualifiers hqualifiers
      refine known tagged rfl (.cons (keptMember_loc hl) (.cons node (.cons qualifiersKept (.cons
        templateKept .nil)))) trivial ?_
      intro ctx
      exact List.forall_mem_cons.mpr ⟨templateSound ctx, qualifiersSound ctx⟩
  | caseOf =>
      simp only [Except.bind_eq_ok, Except.pure_eq_ok, Except.ok.injEq] at h
      obtain ⟨l, hl, subject, hsubject, clauses, hclauses, rfl⟩ := h
      obtain ⟨subjectKept, subjectSound⟩ := settled.expr hsubject
      obtain ⟨clausesKept, clausesSound⟩ := settled.items .clauses hclauses
      refine known tagged rfl (.cons clausesKept (.cons (keptMember_loc hl) (.cons node (.cons
        subjectKept .nil)))) trivial ?_
      intro ctx
      exact List.forall_mem_cons.mpr ⟨subjectSound ctx, clausesSound ctx⟩
  | _ => cases group

theorem represents_sparse (settled : n.Settled)
    (tagged : n.value.get? "node" = some (.str k.tag)) (group : k.group = .sparse)
    (h : Interchange.expr n = .ok e) : Part.Represents (.expr e) n.value := by
  have node := keptMember_data tagged
  unfold Interchange.expr at h
  simp only [Node.tagged tagged, Except.ok_bind, Kind.ofTag?_tag] at h
  cases k with
  | tryOf =>
      simp only [Except.bind_eq_ok, Except.pure_eq_ok, Except.ok.injEq] at h
      obtain ⟨l, hl, body, hbody, clauses, hclauses, handlers, hhandlers, last, hlast, rfl⟩ := h
      obtain ⟨bodyKept, bodySound⟩ := settled.items .exprs hbody
      obtain ⟨clausesKept, clausesSound⟩ := settled.itemsOrNone .clauses hclauses
      obtain ⟨handlersKept, handlersSound⟩ := settled.itemsOrNone .clauses hhandlers
      obtain ⟨lastKept, lastSound⟩ := settled.itemsOrNone .exprs hlast
      refine known tagged rfl (.cons lastKept (.cons bodyKept (.cons clausesKept (.cons handlersKept
        (.cons (keptMember_loc hl) (.cons node .nil)))))) trivial ?_
      intro ctx
      exact List.forall_mem_append.mpr ⟨List.forall_mem_append.mpr ⟨List.forall_mem_append.mpr
        ⟨bodySound ctx, clausesSound ctx⟩, handlersSound ctx⟩, lastSound ctx⟩
  | receive =>
      simp only [Except.bind_eq_ok, Except.pure_eq_ok, Except.ok.injEq] at h
      obtain ⟨l, hl, clauses, hclauses, after, hafter, rfl⟩ := h
      obtain ⟨clausesKept, clausesSound⟩ := settled.itemsOrNone .clauses hclauses
      obtain ⟨afterKept, afterSound⟩ := settled.afterOpt hafter
      refine known tagged rfl (.cons afterKept (.cons clausesKept (.cons (keptMember_loc hl) (.cons
        node .nil)))) trivial ?_
      intro ctx
      exact List.forall_mem_append.mpr ⟨clausesSound ctx, afterSound ctx⟩
  | record =>
      simp only [Except.bind_eq_ok, Except.pure_eq_ok, Except.ok.injEq] at h
      obtain ⟨l, hl, base, hbase, name, hname, fields, hfields, rfl⟩ := h
      obtain ⟨baseKept, baseSound⟩ := settled.exprOpt hbase
      obtain ⟨fieldsKept, fieldsSound⟩ := settled.items .recordFields hfields
      refine known tagged rfl (.cons baseKept (.cons fieldsKept (.cons (keptMember_loc hl) (.cons
        (keptMember_string hname) (.cons node .nil))))) trivial ?_
      intro ctx
      exact List.forall_mem_append.mpr ⟨baseSound ctx, fieldsSound ctx⟩
  | map =>
      simp only [Except.bind_eq_ok, Except.pure_eq_ok, Except.ok.injEq] at h
      obtain ⟨l, hl, base, hbase, entries, hentries, rfl⟩ := h
      obtain ⟨baseKept, baseSound⟩ := settled.exprOpt hbase
      obtain ⟨entriesKept, entriesSound⟩ := settled.items .entries hentries
      refine known tagged rfl (.cons baseKept (.cons entriesKept (.cons (keptMember_loc hl) (.cons
        node .nil)))) trivial ?_
      intro ctx
      exact List.forall_mem_append.mpr ⟨baseSound ctx, entriesSound ctx⟩
  | field =>
      simp only [Except.bind_eq_ok, Except.pure_eq_ok, Except.ok.injEq] at h
      obtain ⟨l, hl, base, hbase, field, hfield, rfl⟩ := h
      obtain ⟨baseKept, baseSound⟩ := settled.exprOpt hbase
      refine known tagged rfl (.cons baseKept (.cons (keptMember_string hfield) (.cons
        (keptMember_loc hl) (.cons node .nil)))) trivial ?_
      intro ctx
      exact baseSound ctx
  | exception =>
      simp only [Except.bind_eq_ok, Except.pure_eq_ok, Except.ok.injEq] at h
      obtain ⟨l, hl, kind, hkind, pattern, hpattern, stack, hstack, rfl⟩ := h
      obtain ⟨kindKept, kindSound⟩ := settled.expr hkind
      obtain ⟨patternKept, patternSound⟩ := settled.expr hpattern
      obtain ⟨stackKept, stackSound⟩ := settled.exprOpt hstack
      refine known tagged rfl (.cons kindKept (.cons (keptMember_loc hl) (.cons node (.cons
        patternKept (.cons stackKept .nil))))) trivial ?_
      intro ctx
      exact List.forall_mem_cons.mpr ⟨kindSound ctx, List.forall_mem_cons.mpr ⟨patternSound ctx,
        stackSound ctx⟩⟩
  | _ => cases group

end Kinds

/-- What is read as an expression represents the value it is read from. -/
theorem represents_expr {e : Expr} (settled : n.Settled) (h : Interchange.expr n = .ok e) :
    Part.Represents (.expr e) n.value := by
  have read := h
  unfold Interchange.expr at h
  obtain ⟨tag?, tagged, arm⟩ := Except.bind_eq_ok.mp h
  cases tag? with
  | none => cases arm
  | some tag =>
  cases hk : Kind.ofTag? tag with
  | none =>
      simp only [hk, Except.bind_eq_ok, Except.pure_eq_ok, Except.ok.injEq] at arm
      obtain ⟨l, hl, rfl⟩ := arm
      exact foreign tagged hk hl
  | some k =>
      rw [← Kind.ofTag?_eq_some.mp hk, tag?_eq_ok] at tagged
      cases group : k.group with
      | leaf => exact settled.represents_leaf tagged group read
      | list => exact settled.represents_list tagged group read
      | operation => exact settled.represents_operation tagged group read
      | exprs => exact settled.represents_exprs tagged group read
      | exprAndList => exact settled.represents_exprAndList tagged group read
      | sparse => exact settled.represents_sparse tagged group read

theorem represents_clause {c : Clause} (settled : n.Settled) (h : Interchange.clause n = .ok c) :
    Part.Represents (.clause c) n.value := by
  unfold Interchange.clause at h
  simp only [Except.bind_eq_ok, Except.pure_eq_ok, Except.ok.injEq] at h
  obtain ⟨l, hl, patterns, hpatterns, guards, hguards, body, hbody, rfl⟩ := h
  obtain ⟨patternsKept, patternsSound⟩ := settled.items .exprs hpatterns
  obtain ⟨guardsKept, guardsSound⟩ := settled.guards hguards
  obtain ⟨bodyKept, bodySound⟩ := settled.items .exprs hbody
  constructor
  · intro ctx
    rw [Site.isWellFormed_iff]
    refine ⟨by simp [Part.label?, NodeLabel.IsSound], ?_⟩
    exact List.forall_mem_append.mpr ⟨List.forall_mem_append.mpr
      ⟨patternsSound .pattern, guardsSound .guard⟩, bodySound .body⟩
  · exact .object rfl
      (.cons bodyKept (.cons guardsKept (.cons (keptMember_loc hl) (.cons patternsKept .nil))))

theorem represents_segment {s : Segment} (settled : n.Settled) (h : Interchange.segment n = .ok s) :
    Part.Represents (.segment s) n.value := by
  unfold Interchange.segment at h
  simp only [Except.bind_eq_ok, Except.pure_eq_ok, Except.ok.injEq] at h
  obtain ⟨l, hl, value, hvalue, size, hsize, types, htypes, rfl⟩ := h
  obtain ⟨valueKept, valueSound⟩ := settled.expr hvalue
  obtain ⟨sizeKept, sizeSound⟩ := settled.exprOpt hsize
  constructor
  · intro ctx
    rw [Site.isWellFormed_iff]
    refine ⟨by simp [Part.label?, NodeLabel.IsSound], ?_⟩
    exact List.forall_mem_cons.mpr ⟨valueSound ctx, sizeSound ctx⟩
  · exact .object rfl (.cons (keptMember_loc hl) (.cons sizeKept
      (.cons (settled.types htypes) (.cons valueKept .nil))))

theorem represents_recordField {f : RecordField} (settled : n.Settled)
    (h : Interchange.recordField n = .ok f) : Part.Represents (.recordField f) n.value := by
  unfold Interchange.recordField at h
  simp only [Except.bind_eq_ok, Except.pure_eq_ok, Except.ok.injEq] at h
  obtain ⟨l, hl, name, hname, value, hvalue, rfl⟩ := h
  obtain ⟨valueKept, valueSound⟩ := settled.expr hvalue
  constructor
  · intro ctx
    rw [Site.isWellFormed_iff]
    refine ⟨by simp [Part.label?, NodeLabel.IsSound], ?_⟩
    exact List.forall_mem_singleton.mpr (valueSound ctx)
  · exact .object rfl
      (.cons (keptMember_loc hl) (.cons (keptMember_string hname) (.cons valueKept .nil)))

theorem represents_entry {e : Entry} (settled : n.Settled) (h : Interchange.entry n = .ok e) :
    Part.Represents (.entry e) n.value := by
  unfold Interchange.entry at h
  simp only [Except.bind_eq_ok, Except.pure_eq_ok, Except.ok.injEq] at h
  obtain ⟨l, hl, key, hkey, value, hvalue, rfl⟩ := h
  obtain ⟨valueKept, valueSound⟩ := settled.expr hvalue
  constructor
  · intro ctx
    rw [Site.isWellFormed_iff]
    refine ⟨by simp [Part.label?, Entry.label, NodeLabel.IsSound], ?_⟩
    exact List.forall_mem_singleton.mpr (valueSound ctx)
  · exact .object rfl
      (.cons (keptMember_string hkey) (.cons (keptMember_loc hl) (.cons valueKept .nil)))

/-- The two generators differ in their tags. -/
theorem represents_generator {q : Qualifier} {tag : String} {l : Loc} {pattern source : Expr}
    (settled : n.Settled) (found : n.value.get? "qualifier" = some (.str tag))
    (known : Shape.qualifierSlots? tag = Shape.qualifierSlots? "generate")
    (written : q.toJson = .obj [("loc", l.toJson), ("pattern", pattern.toJson),
      ("qualifier", .str tag), ("source", source.toJson)])
    (children : ∀ ctx, Site.children ⟨ctx, .qualifier q⟩ = Site.each ctx .expr [pattern, source])
    (sound : ∀ label ∈ (Part.qualifier q).label?, label.IsSound) (hl : n.loc = .ok l)
    (hpattern : n.field "pattern" (fun m => Interchange.expr m.1) = .ok pattern)
    (hsource : n.field "source" (fun m => Interchange.expr m.1) = .ok source) :
    Part.Represents (.qualifier q) n.value := by
  obtain ⟨patternKept, patternSound⟩ := settled.expr hpattern
  obtain ⟨sourceKept, sourceSound⟩ := settled.expr hsource
  constructor
  · intro ctx
    rw [Site.isWellFormed_iff]
    refine ⟨sound, ?_⟩
    rw [children]
    exact List.forall_mem_cons.mpr
      ⟨patternSound ctx, List.forall_mem_singleton.mpr (sourceSound ctx)⟩
  · have slots : Shape.slots? .qualifier n.value = Shape.qualifierSlots? "generate" := by
      simp [Shape.slots?, Shape.tag?, found, known]
    rw [Part.toJson, written]
    exact .object slots (.cons (keptMember_loc hl) (.cons patternKept
      (.cons (keptMember_data found) (.cons sourceKept .nil))))

theorem represents_qualifier {q : Qualifier} (settled : n.Settled)
    (h : Interchange.qualifier n = .ok q) : Part.Represents (.qualifier q) n.value := by
  unfold Interchange.qualifier at h
  obtain ⟨tag?, tagged, arm⟩ := Except.bind_eq_ok.mp h
  clear h
  split at arm
  · simp only [Except.bind_eq_ok, Except.pure_eq_ok, Except.ok.injEq] at arm
    obtain ⟨l, hl, pattern, hpattern, source, hsource, rfl⟩ := arm
    exact settled.represents_generator (tag?_eq_ok.mp tagged) rfl rfl (fun _ => rfl)
      (by simp [Part.label?, NodeLabel.IsSound]) hl hpattern hsource
  · simp only [Except.bind_eq_ok, Except.pure_eq_ok, Except.ok.injEq] at arm
    obtain ⟨l, hl, pattern, hpattern, source, hsource, rfl⟩ := arm
    exact settled.represents_generator (tag?_eq_ok.mp tagged) rfl rfl (fun _ => rfl)
      (by simp [Part.label?, NodeLabel.IsSound]) hl hpattern hsource
  · have found := tag?_eq_ok.mp tagged
    simp only [Except.bind_eq_ok, Except.pure_eq_ok, Except.ok.injEq] at arm
    obtain ⟨test, htest, rfl⟩ := arm
    obtain ⟨testKept, testSound⟩ := settled.expr htest
    constructor
    · intro ctx
      rw [Site.isWellFormed_iff]
      refine ⟨by simp [Part.label?], ?_⟩
      exact List.forall_mem_singleton.mpr (testSound ctx)
    · have known : Shape.slots? .qualifier n.value = Shape.qualifierSlots? "filter" := by
        simp [Shape.slots?, Shape.tag?, found]
      exact .object known (.cons (keptMember_data found) (.cons testKept .nil))
  · cases arm
  · cases arm

end Node.Settled

/-- What is read at a node represents the value of the node. -/
theorem Part.represents_of_isRead {n : Node} (finite : n.value.IsFinite) {p : Part}
    (h : p.IsRead n) : p.Represents n.value := by
  -- The readers go from a node to nodes inside it, so the induction is on the size of the value.
  have settled : n.Settled := ⟨finite, fun m inner q hq => Part.represents_of_isRead inner hq⟩
  cases p with
  | expr e => exact settled.represents_expr h
  | clause c => exact settled.represents_clause h
  | segment s => exact settled.represents_segment h
  | qualifier q => exact settled.represents_qualifier h
  | recordField f => exact settled.represents_recordField h
  | entry e => exact settled.represents_entry h
termination_by sizeOf n.value
decreasing_by exact m.2

/-! ## Forms -/

theorem Node.settled {n : Node} (finite : n.value.IsFinite) : n.Settled :=
  ⟨finite, fun _ inner _ h => Part.represents_of_isRead inner h⟩

namespace Form

theorem isWellFormed_and_kept_of_form {n : Node} (finite : n.value.IsFinite) {f : Form}
    (h : Interchange.form n = .ok f) : f.IsWellFormed ∧ Kept .form f.toJson n.value := by
  have settled := Node.settled finite
  unfold Interchange.form at h
  split at h
  · next found =>
      simp only [Except.bind_eq_ok, Except.pure_eq_ok, Except.ok.injEq] at h
      obtain ⟨l, hl, name, hname, line, hline, rfl⟩ := h
      have slots : Shape.slots? .form n.value = Shape.formSlots? "file" := by
        simp [Shape.slots?, Shape.tag?, found]
      refine ⟨by simp [IsWellFormed, children], .object slots ?_⟩
      exact .cons (Node.keptMember_string hname) (.cons (Node.keptMember_data found)
        (.cons (Node.keptMember_data (Node.field_uint32_eq_ok.mp hline))
          (.cons (Node.keptMember_loc hl) .nil)))
  · next found =>
      simp only [Except.bind_eq_ok, Except.pure_eq_ok, Except.ok.injEq] at h
      obtain ⟨l, hl, name, hname, arity, harity, clauses, hclauses, rfl⟩ := h
      obtain ⟨clausesKept, clausesSound⟩ := settled.items .clauses hclauses
      have slots : Shape.slots? .form n.value = Shape.formSlots? "function" := by
        simp [Shape.slots?, Shape.tag?, found]
      refine ⟨clausesSound .undefined, .object slots ?_⟩
      exact .cons (Node.keptMember_data (Node.field_uint64_eq_ok.mp harity)) (.cons clausesKept
        (.cons (Node.keptMember_data found) (.cons (Node.keptMember_loc hl)
          (.cons (Node.keptMember_string hname) .nil))))
  · next found =>
      simp only [Except.bind_eq_ok, Except.pure_eq_ok, Except.ok.injEq] at h
      obtain ⟨l, hl, name, hname, value?, hvalue, rfl⟩ := h
      have slots : Shape.slots? .form n.value = Shape.formSlots? "attribute" := by
        simp [Shape.slots?, Shape.tag?, found]
      have valueKept : KeptMember n.value (.optional "value" .data)
          ("value", value?.getD .null) := by
        refine (settled.optional (P := True) hvalue ?_ ?_).1
        · rintro m v - ⟨⟩ rfl
          exact ⟨.data, trivial⟩
        · rintro rfl
          exact ⟨rfl, trivial⟩
      refine ⟨by simp [IsWellFormed, children], .object slots ?_⟩
      exact .cons (Node.keptMember_data found) (.cons (Node.keptMember_loc hl)
        (.cons (Node.keptMember_string hname) (.cons valueKept .nil)))
  · next found =>
      simp only [Except.bind_eq_ok, Except.pure_eq_ok, Except.ok.injEq] at h
      obtain ⟨l, hl, rfl⟩ := h
      have slots : Shape.slots? .form n.value = Shape.formSlots? "eof" := by
        simp [Shape.slots?, Shape.tag?, found]
      refine ⟨by simp [IsWellFormed, children], .object slots ?_⟩
      exact .cons (Node.keptMember_data found) (.cons (Node.keptMember_loc hl) .nil)
  · next noFile noFunction noAttribute noEof =>
      cases h
      constructor
      · simp only [IsWellFormed, List.forall_mem_cons]
        exact ⟨noFile, noFunction, noAttribute, noEof, by simp⟩
      · apply Kept.uninterpreted
        rw [Shape.slots?, Option.bind_eq_none_iff]
        intro tag tagged
        rw [Shape.tag?_eq_some] at tagged
        unfold Shape.formSlots?
        split
        · exact absurd tagged noFile
        · exact absurd tagged noFunction
        · exact absurd tagged noAttribute
        · exact absurd tagged noEof
        · rfl

/-- The forms read from a list are well formed, and kept one by one. -/
theorem isWellFormed_and_kept_of_listOfJson {v : Json} {fs : List Form} (finite : v.IsFinite)
    (h : listOfJson v = .ok fs) :
    (∀ f ∈ fs, f.IsWellFormed) ∧ Kept (.list .form) (listToJson fs) v := by
  obtain ⟨vs, hv, items⟩ := Node.items_eq_ok h
  change v = .arr vs at hv
  subst hv
  replace finite := Json.ItemsFinite.of_mem finite
  suffices (∀ f ∈ fs, f.IsWellFormed) ∧ KeptItems .form (fs.map toJson) vs from
    ⟨this.1, .list this.2⟩
  have read : List.Forall₂ (fun v f => ∃ n : Node, n.value = v ∧ form n = .ok f) vs fs := by
    refine items.imp ?_
    rintro v f ⟨m, hm, hf⟩
    exact ⟨m.1, hm, hf⟩
  clear h items
  induction read with
  | nil => exact ⟨by simp, .nil⟩
  | cons item _ ih =>
      obtain ⟨here, rest⟩ := List.forall_mem_cons.mp finite
      obtain ⟨n, rfl, hf⟩ := item
      obtain ⟨wellFormed, kept⟩ := isWellFormed_and_kept_of_form here hf
      obtain ⟨restWellFormed, restKept⟩ := ih rest
      exact ⟨List.forall_mem_cons.mpr ⟨wellFormed, restWellFormed⟩, .cons kept restKept⟩

end Form

/-- Reading neither invents nor alters data. Whatever is read from a value is written as that value
again: with as many forms in the same order, each of which, if it is interpreted, has the members
that the schema names, kept from the value or filled in where the value has none; foreign nodes and
forms that are not interpreted are the same. The numbers of the value are finite, as those of every
text are. -/
theorem reading_keeps_data {v : Json} {fs : List Form} (finite : v.IsFinite)
    (h : Form.listOfJson v = .ok fs) : Kept (.list .form) (Form.listToJson fs) v :=
  (Form.isWellFormed_and_kept_of_listOfJson finite h).2

/-- A member that no schema names is dropped, missing guards are filled in, the integer of a float
literal becomes a double, and the foreign node is the same. -/
theorem reading_keeps_data_unit :
    let l := Loc.onLine 1
    let number : Json := .obj [("loc", l.toJson), ("node", .str "float"), ("note", .bool true),
      ("value", .int (.ofInt64 3))]
    let unknown : Json := .obj [("node", .str "macro"), ("note", .bool true)]
    let clause : Json := .obj [("body", .arr [number, unknown]), ("loc", l.toJson),
      ("patterns", .arr [])]
    let function : Json := .obj [("arity", .int (.ofUInt64 0)), ("clauses", .arr [clause]),
      ("form", .str "function"), ("loc", l.toJson), ("name", .str "f")]
    let v : Json := .arr [function, .str "text"]
    let fs : List Form := [.function l "f" 0
      [⟨l, [], [], [.lit l (.float 3), .foreign .unknown "macro" unknown]⟩], .other (.str "text")]
    v.IsFinite ∧ Form.listOfJson v = .ok fs ∧ Kept (.list .form) (Form.listToJson fs) v := by
  intro l number unknown clause function v fs
  have readNumber (n : Node) (hn : n.value = number) : expr n = .ok (.lit l (.float 3)) := by
    have value : n.field "value" (·.1.float) = .ok 3 := by
      apply Node.field_of_some (Node.get?_of_eq hn rfl) Json.noConfusion
      intro m hm
      rw [Node.float, Node.scalar_eq_ok, hm]
      rfl
    rw [expr, Node.tagged (k := .float) (Node.get?_of_eq hn rfl)]
    simp only [Except.ok_bind, Kind.ofTag?_tag]
    rw [Node.loc_eq_ok.mpr (Node.get?_of_eq hn rfl), value]
    rfl
  have readUnknown (n : Node) (hn : n.value = unknown) :
      expr n = .ok (.foreign .unknown "macro" unknown) := by
    have outside : Kind.ofTag? "macro" = none := by decide
    have loc : n.fieldOpt "loc" (fun _ => n.loc) = .ok none :=
      Node.fieldOpt_eq_ok.mpr (Or.inr ⟨Node.member?_of_null hn (Or.inl rfl), rfl⟩)
    rw [expr, Node.tag?_eq_ok.mpr (Node.get?_of_eq hn rfl)]
    simp only [Except.ok_bind, outside]
    rw [loc, hn]
    rfl
  have readClause (n : Node) (hn : n.value = clause) : Interchange.clause n =
      .ok ⟨l, [], [], [.lit l (.float 3), .foreign .unknown "macro" unknown]⟩ := by
    have patterns : n.fieldItems "patterns" (fun m => expr m.1) = .ok [] :=
      Node.field_of_some (Node.get?_of_eq hn rfl) Json.noConfusion fun m hm =>
        Node.items_of_forall₂ hm .nil
    have guards : n.fieldItemsOrNone "guards"
        (fun m => m.1.items fun k => expr (m.outward k).1) = .ok [] := by
      rw [Node.fieldItemsOrNone,
        Node.fieldOpt_eq_ok.mpr (Or.inr ⟨Node.member?_of_null hn (Or.inl rfl), rfl⟩)]
      rfl
    have body : n.fieldItems "body" (fun m => expr m.1) =
        .ok [.lit l (.float 3), .foreign .unknown "macro" unknown] :=
      Node.field_of_some (Node.get?_of_eq hn rfl) Json.noConfusion fun m hm =>
        Node.items_of_forall₂ hm
          (.cons (fun k => readNumber k.1) (.cons (fun k => readUnknown k.1) .nil))
    rw [Interchange.clause, Node.loc_eq_ok.mpr (Node.get?_of_eq hn rfl), patterns, guards, body]
    rfl
  have readFunction (n : Node) (hn : n.value = function) : form n = .ok (.function l "f" 0
      [⟨l, [], [], [.lit l (.float 3), .foreign .unknown "macro" unknown]⟩]) := by
    have clauses : n.fieldItems "clauses" (fun m => Interchange.clause m.1) =
        .ok [⟨l, [], [], [.lit l (.float 3), .foreign .unknown "macro" unknown]⟩] :=
      Node.field_of_some (Node.get?_of_eq hn rfl) Json.noConfusion fun m hm =>
        Node.items_of_forall₂ hm (.cons (fun k => readClause k.1) .nil)
    have tagged : n.value.get? "form" = some (.str "function") := Node.get?_of_eq hn rfl
    rw [form, tagged]
    simp only
    rw [Node.loc_eq_ok.mpr (Node.get?_of_eq hn rfl),
      Node.stringField_eq_ok.mpr (Node.get?_of_eq hn rfl),
      Node.field_uint64_eq_ok.mpr (Node.get?_of_eq hn rfl), clauses]
    rfl
  have read : Form.listOfJson v = .ok fs := by
    apply Node.items_of_forall₂ (n := .root v) rfl
    refine .cons (fun m => readFunction m.1) (.cons ?_ .nil)
    rintro ⟨⟨value, path⟩, lt⟩ rfl
    rw [form]
    rfl
  have finite : v.IsFinite := by
    simp [v, function, clause, unknown, number, l, Loc.onLine, Loc.toJson, Json.ofUInt32,
      Json.IsFinite, Json.ItemsFinite, Json.MembersFinite]
  exact ⟨finite, read, reading_keeps_data finite read⟩

end Unsugar
