import Unsugar.Proofs.Desugar.Nodes

/-!
# Normal forms

A term is in normal form for a role when no site of it is an offence or sugar: no node is foreign
and no field lacks its base, bodies hold no aggregates and no field accesses, and patterns hold no
field accesses. Which sites count depends on the roles that clauses and matches set inside the term,
so the predicate speaks of the sites of the term, not of its nodes alone.

Main statement: desugaring yields normal forms, and leaves a term as it is exactly when the term is
in normal form already (`desugar_fixed_iff_normal`); the same holds of units.
-/

namespace Unsugar

namespace Site

variable {ctx : Context}

/-- No site of the term is an offence or sugar. -/
def IsNormal (s : Site) : Prop := ∀ n ∈ s.nodes, n.isOffence = false ∧ n.isSugar = false

theorem isNormal_iff {s : Site} :
    s.IsNormal ↔
      (s.isOffence = false ∧ s.isSugar = false) ∧ ∀ c ∈ s.children, c.IsNormal :=
  forall_mem_nodes

/-! ## Desugared terms are normal -/

/-- Every site of a desugared term is in normal form. -/
theorem isNormal_of_desugar (s : Site) : ∀ t, s.desugar = .ok t → t.IsNormal := by
  have calls : HoldsInCalls fun n => n.isOffence = false ∧ n.isSugar = false :=
    ⟨fun _ _ => ⟨rfl, rfl⟩, fun _ _ _ => ⟨rfl, rfl⟩, fun _ _ _ => ⟨rfl, rfl⟩⟩
  -- Nothing is asked of the term before: what it holds that is not normal, desugaring refuses or
  -- replaces.
  apply forall_mem_nodes_of_desugar (p := fun _ => True) calls
  · intro s t _ _ sound plain
    exact ⟨sound, plain⟩
  · simp

/-! ## Normal terms are left as they are -/

/-- A site that desugaring leaves as it is. -/
def IsFixed (s : Site) : Prop := s.desugar = .ok s

theorem forall_each_fixed {α : Type} {node : α → Part} {xs : List α} {r : Desugared (List α)}
    (inj : Function.Injective node) (run : (each ctx node xs).mapM desugar = each ctx node <$> r) :
    (∀ c ∈ each ctx node xs, c.IsFixed) ↔ r = .ok xs := by
  have inj' : Function.Injective fun x => (⟨ctx, node x⟩ : Site) := by
    intro x y hxy
    exact inj (congrArg part hxy)
  have same (cs : List Site) :
      (∀ c ∈ cs, c.IsFixed) ↔ List.Forall₂ (fun c d => c.desugar = .ok d) cs cs := by
    rw [List.forall₂_same]
    rfl
  rw [same, ← mapM_eq_ok_iff, run]
  cases r with
  | error r => simp
  | ok ys => simp [each, (List.map_injective_iff.mpr inj').eq_iff]

theorem exprs_fixed {es : List Expr} :
    (∀ c ∈ each ctx .expr es, c.IsFixed) ↔ Expr.desugarList ctx es = .ok es :=
  forall_each_fixed (fun _ _ => Part.expr.inj) (mapM_exprs ctx es)

theorem clauses_fixed {cs : List Clause} :
    (∀ c ∈ each ctx .clause cs, c.IsFixed) ↔ Clause.desugarList cs = .ok cs :=
  forall_each_fixed (fun _ _ => Part.clause.inj) (mapM_clauses ctx cs)

theorem segments_fixed {ss : List Segment} :
    (∀ c ∈ each ctx .segment ss, c.IsFixed) ↔ Segment.desugarList ctx ss = .ok ss :=
  forall_each_fixed (fun _ _ => Part.segment.inj) (mapM_segments ctx ss)

theorem qualifiers_fixed {qs : List Qualifier} :
    (∀ c ∈ each ctx .qualifier qs, c.IsFixed) ↔ Qualifier.desugarList ctx qs = .ok qs :=
  forall_each_fixed (fun _ _ => Part.qualifier.inj) (mapM_qualifiers ctx qs)

theorem recordFields_fixed {fs : List RecordField} :
    (∀ c ∈ each ctx .recordField fs, c.IsFixed) ↔ RecordField.desugarList ctx fs = .ok fs :=
  forall_each_fixed (fun _ _ => Part.recordField.inj) (mapM_recordFields ctx fs)

theorem entries_fixed {es : List Entry} :
    (∀ c ∈ each ctx .entry es, c.IsFixed) ↔ Entry.desugarList ctx es = .ok es :=
  forall_each_fixed (fun _ _ => Part.entry.inj) (mapM_entries ctx es)

theorem after_fixed {after : Option After} :
    (∀ c ∈ belowAfter ctx after, c.IsFixed) ↔ After.desugarOpt ctx after = .ok after := by
  rcases after with _ | ⟨timeout, es⟩
  · simp [belowAfter, After.desugarOpt]
  · rw [belowAfter, exprs_fixed, Expr.desugarList, After.desugarOpt]
    cases timeout.desugar ctx <;> cases Expr.desugarList ctx es <;> simp

theorem guards_fixed {gs : List (List Expr)} :
    (∀ c ∈ each ctx .expr gs.flatten, c.IsFixed) ↔ Expr.desugarGuards ctx gs = .ok gs := by
  induction gs with
  | nil => simp [each, Expr.desugarGuards]
  | cons g gs ih =>
      rw [List.flatten_cons, each, List.map_append, List.forall_mem_append, ← each, ← each,
        exprs_fixed, ih, Expr.desugarGuards]
      cases Expr.desugarList ctx g <;> cases Expr.desugarGuards ctx gs <;> simp

theorem desugarList_toList_eq_self {e : Option Expr} :
    Expr.desugarList ctx e.toList = .ok e.toList ↔ Expr.desugarOpt ctx e = .ok e := by
  rw [Expr.desugarList_toList]
  cases e with
  | none => simp [Expr.desugarOpt]
  | some e => cases h : e.desugar ctx <;> simp [Expr.desugarOpt, h]

theorem desugarList_cons_eq_self {e : Expr} {es : List Expr} :
    Expr.desugarList ctx (e :: es) = .ok (e :: es) ↔
      e.desugar ctx = .ok e ∧ Expr.desugarList ctx es = .ok es := by
  rw [Expr.desugarList]
  cases e.desugar ctx <;> cases Expr.desugarList ctx es <;> simp

theorem isFixed_expr {e : Expr} : IsFixed ⟨ctx, .expr e⟩ ↔ e.desugar ctx = .ok e := by
  cases h : e.desugar ctx <;> simp [IsFixed, desugar, h]

theorem expr_fixed_of_children {e : Expr} (offence : isOffence ⟨ctx, .expr e⟩ = false)
    (sugar : isSugar ⟨ctx, .expr e⟩ = false) (h : ∀ c ∈ belowExpr ctx e, c.IsFixed) :
    e.desugar ctx = .ok e := by
  -- The arms that make a choice come first; all others rebuild the node from its children.
  cases e
  case foreign l tag raw => simp [isOffence] at offence
  case bind l p a =>
    simp only [belowExpr, List.forall_mem_cons, isFixed_expr] at h
    simp [Expr.desugar, h]
  case field l base name =>
    rcases base with _ | b
    · simp [isOffence] at offence
    · simp only [belowExpr, Option.toList, exprs_fixed, desugarList_cons_eq_self] at h
      simp only [isOffence, isSugar] at offence sugar
      cases root : b.isEmptyAtom <;> cases ctx <;> simp_all [Expr.desugar]
  case map l base es =>
    simp only [belowExpr, List.forall_mem_append, exprs_fixed, entries_fixed,
      desugarList_toList_eq_self] at h
    simp only [isSugar, decide_eq_false_iff_not] at sugar
    simp [Expr.desugar, h, sugar]
  all_goals
    simp only [belowExpr, List.forall_mem_append, exprs_fixed, clauses_fixed, segments_fixed,
      qualifiers_fixed, recordFields_fixed, after_fixed, desugarList_cons_eq_self,
      desugarList_toList_eq_self] at h
    simp [Expr.desugar, h]

/-- A site that is neither an offence nor sugar is left as it is if all its children are. -/
theorem isFixed_of_children {s : Site} (offence : s.isOffence = false) (sugar : s.isSugar = false)
    (h : ∀ c ∈ s.children, c.IsFixed) : s.IsFixed := by
  obtain ⟨ctx, p⟩ := s
  cases p with
  | expr e => exact isFixed_expr.mpr (expr_fixed_of_children offence sugar h)
  | clause c =>
      obtain ⟨l, patterns, guards, body⟩ := c
      simp only [children, List.forall_mem_append, guards_fixed] at h
      simp only [exprs_fixed] at h
      simp [IsFixed, desugar, Clause.desugar, h]
  | segment s =>
      obtain ⟨l, e, size, types⟩ := s
      simp only [children, List.forall_mem_append, exprs_fixed, desugarList_cons_eq_self,
        desugarList_toList_eq_self] at h
      simp [IsFixed, desugar, Segment.desugar, h]
  | qualifier q =>
      cases q <;> simp only [children, exprs_fixed, desugarList_cons_eq_self] at h <;>
        simp [IsFixed, desugar, Qualifier.desugar, h]
  | recordField f =>
      obtain ⟨l, name, e⟩ := f
      simp only [children, exprs_fixed, desugarList_cons_eq_self] at h
      simp [IsFixed, desugar, RecordField.desugar, h]
  | entry e =>
      obtain ⟨l, key, e⟩ := e
      simp only [children, exprs_fixed, desugarList_cons_eq_self] at h
      simp [IsFixed, desugar, Entry.desugar, h]

/-- A term that is desugared and holds no sugar in bodies is in normal form already. -/
theorem isNormal_of_not_isSugar {s t : Site} (h : s.desugar = .ok t)
    (plain : ∀ n ∈ s.nodes, n.isSugar = false) : s.IsNormal := by
  intro n hn
  exact ⟨not_isOffence_of_desugar s t h n hn, plain n hn⟩

/-- Desugaring leaves alone exactly the terms in normal form. -/
theorem isFixed_iff_isNormal (s : Site) : s.IsFixed ↔ s.IsNormal := by
  constructor
  · intro h
    exact isNormal_of_desugar s s h
  · induction s using Site.induction with
    | step s ih =>
        intro h
        rw [isNormal_iff] at h
        obtain ⟨⟨offence, sugar⟩, below⟩ := h
        apply isFixed_of_children offence sugar
        intro c hc
        exact ih c hc (below c hc)

end Site

/-! ## Units -/

namespace Form

/-- The code of the form is in normal form. -/
def IsNormal (f : Form) : Prop := ∀ c ∈ f.children, c.IsNormal

theorem isNormal_of_desugar {f f' : Form} (h : f.desugar = .ok f') : f'.IsNormal := by
  refine Site.forall_outcomes (desugar_ok h) ?_
  intro c _
  exact Site.isNormal_of_desugar c

theorem desugar_eq_self_iff {f : Form} : f.desugar = .ok f ↔ f.IsNormal := by
  constructor
  · exact isNormal_of_desugar
  · intro h
    have fixed : ∀ c ∈ f.children, c.IsFixed := by
      intro c hc
      exact (Site.isFixed_iff_isNormal c).mpr (h c hc)
    cases f with
    | function l name arity cs =>
        rw [children, Site.clauses_fixed] at fixed
        simp [desugar, fixed]
    | _ => rfl

end Form

namespace Session

theorem isNormal_of_transform {s : Session} {fs fs' : List Form}
    (h : (s.transform fs).1 = .ok fs') : ∀ f ∈ fs', f.IsNormal := by
  rw [transform_eq_ok_iff] at h
  induction h with
  | nil => simp
  | cons hf _ ih => exact List.forall_mem_cons.mpr ⟨Form.isNormal_of_desugar hf, ih⟩

theorem isNormal_of_not_isSugar {s : Session} {fs fs' : List Form}
    (h : (s.transform fs).1 = .ok fs')
    (plain : ∀ f ∈ fs, ∀ c ∈ f.children, ∀ n ∈ c.nodes, n.isSugar = false) :
    ∀ f ∈ fs, f.IsNormal := by
  rw [transform_eq_ok_iff] at h
  induction h with
  | nil => simp
  | cons hf _ ih =>
      obtain ⟨here, rest⟩ := List.forall_mem_cons.mp plain
      refine List.forall_mem_cons.mpr ⟨?_, ih rest⟩
      intro c hc
      obtain ⟨d, hd⟩ := Site.exists_outcome (Form.desugar_ok hf) c hc
      exact Site.isNormal_of_not_isSugar hd (here c hc)

theorem transform_eq_self_iff {s : Session} {fs : List Form} :
    (s.transform fs).1 = .ok fs ↔ ∀ f ∈ fs, f.IsNormal := by
  rw [transform_eq_ok_iff, List.forall₂_same]
  simp only [Form.desugar_eq_self_iff]

end Session

/-- Desugaring yields terms in normal form and changes nothing in them, so that a second
desugaring gives the same term again; a term that is not in normal form is always changed or
refused. Hence code with no sugar in bodies is left as it is, other sugar included, unless it is
refused. The same holds of units, whatever the session. -/
theorem desugar_fixed_iff_normal :
    (∀ (ctx : Context) (e e' : Expr), e.desugar ctx = .ok e' →
      Site.IsNormal ⟨ctx, .expr e'⟩ ∧ e'.desugar ctx = .ok e') ∧
    (∀ (ctx : Context) (e : Expr), e.desugar ctx = .ok e ↔ Site.IsNormal ⟨ctx, .expr e⟩) ∧
    (∀ (ctx : Context) (e e' : Expr), (∀ n ∈ Site.nodes ⟨ctx, .expr e⟩, n.isSugar = false) →
      e.desugar ctx = .ok e' → e' = e) ∧
    (∀ (s : Session) (fs fs' : List Form), (s.transform fs).1 = .ok fs' →
      (∀ f ∈ fs', f.IsNormal) ∧ ∀ s' : Session, (s'.transform fs').1 = .ok fs') ∧
    (∀ (s : Session) (fs : List Form), (s.transform fs).1 = .ok fs ↔ ∀ f ∈ fs, f.IsNormal) ∧
    ∀ (s : Session) (fs fs' : List Form),
      (∀ f ∈ fs, ∀ c ∈ f.children, ∀ n ∈ c.nodes, n.isSugar = false) →
        (s.transform fs).1 = .ok fs' → fs' = fs := by
  have fixed (ctx : Context) (e : Expr) :
      e.desugar ctx = .ok e ↔ Site.IsNormal ⟨ctx, .expr e⟩ := by
    rw [← Site.isFixed_expr, Site.isFixed_iff_isNormal]
  refine ⟨?_, fixed, ?_, ?_, ?_, ?_⟩
  · intro ctx e e' h
    have normal := Site.isNormal_of_desugar _ _ (Site.desugar_expr h)
    exact ⟨normal, (fixed ctx e').mpr normal⟩
  · intro ctx e e' plain h
    have same := (fixed ctx e).mpr (Site.isNormal_of_not_isSugar (Site.desugar_expr h) plain)
    rw [h] at same
    exact Except.ok.inj same
  · intro s fs fs' h
    have normal := Session.isNormal_of_transform h
    refine ⟨normal, ?_⟩
    intro s'
    exact Session.transform_eq_self_iff.mpr normal
  · intro s fs
    exact Session.transform_eq_self_iff
  · intro s fs fs' plain h
    have same : (s.transform fs).1 = .ok fs :=
      Session.transform_eq_self_iff.mpr (Session.isNormal_of_not_isSugar h plain)
    rw [h] at same
    exact Except.ok.inj same

/-- The aggregate on the left of a match is normal and stays; the field on the right becomes a call,
which stays from then on, also in a function that is desugared in another session. -/
theorem desugar_fixed_iff_normal_bind :
    let l := Loc.onLine 1
    let pattern : Expr := .map l none []
    let value : Expr := Container.fetch l "k" (.var l "X")
    let unit (e : Expr) : List Form := [.function l "f" 0 [⟨l, [pattern], [], [e]⟩]]
    (Expr.bind l pattern (.field l (some (.var l "X")) "k")).desugar .body =
      .ok (.bind l pattern value) ∧
    Site.IsNormal ⟨.body, .expr (.bind l pattern value)⟩ ∧
    (Expr.bind l pattern value).desugar .body = .ok (.bind l pattern value) ∧
    ((Session.forFile "m").transform (unit value)).1 = .ok (unit value) ∧
    (∀ e', pattern.desugar .pattern = .ok e' → e' = pattern) ∧
    ∀ fs', (Session.new.transform (unit (.var l "X"))).1 = .ok fs' → fs' = unit (.var l "X") := by
  intro l pattern value unit
  obtain ⟨exprs, -, kept, units, -, keptUnits⟩ := desugar_fixed_iff_normal
  have run : (Expr.bind l pattern (.field l (some (.var l "X")) "k")).desugar .body =
      .ok (.bind l pattern value) := rfl
  have runs : (Session.new.transform (unit (.field l (some (.var l "X")) "k"))).1 =
      .ok (unit value) := rfl
  obtain ⟨normal, again⟩ := exprs .body _ _ run
  refine ⟨run, normal, again, (units _ _ _ runs).2 _, ?_, ?_⟩
  · intro e'
    apply kept
    rw [Site.nodes_eq]
    simp [pattern, Site.isSugar, Site.children, Site.belowExpr, Site.each]
  · intro fs'
    apply keptUnits
    simp only [unit, Form.children, Site.each, List.map_cons, List.map_nil,
      List.forall_mem_singleton]
    rw [Site.nodes_eq]
    simp [pattern, Site.nodes_eq, Site.isSugar, Site.children, Site.belowExpr, Site.each]

end Unsugar
