import Unsugar.Proofs.Desugar.Nodes
import Unsugar.Proofs.Desugar.Offence

/-!
# Roles other than bodies

Outside of bodies, roles differ in one point: patterns refuse field accesses. So two walks through
one term, from a guard and from another role that is no body, stay in step: where neither has met a
field access in a pattern they have built the same tree, or stopped at the same node. Clauses and
left sides of matches set roles of their own, and from there on both walks are the same.

Main statement: `roles_in_step`.
-/

namespace Unsugar

/-- The refusal without the role in which its node was met. -/
def Refusal.withoutRole : Refusal → Refusal
  | unsupported node _ trail => unsupported node .undefined trail
  | malformed line detail => malformed line detail

theorem Refusal.withoutRole_within (frame : Frame) (r : Refusal) :
    (r.within frame).withoutRole = r.withoutRole.within frame := by
  cases r <;> rfl

namespace Desugared

variable {α β : Type}

/-- A refusal of a field access in a pattern. -/
def RefusesField (x : Desugared α) : Prop :=
  ∃ l base name trail, x = .error (.unsupported (.field l (some base) name) .pattern trail)

/-- What desugaring in a role comes to, beside what it comes to in a guard: the same tree or the same
refusal up to the role, unless the role is that of a pattern and a field access is refused. -/
def InStep (ctx : Context) (x y : Desugared α) : Prop :=
  (ctx = .pattern ∧ RefusesField x) ∨ SameUpTo Refusal.withoutRole x y

namespace InStep

variable {ctx : Context} {x y : Desugared α} {f g : α → Desugared β}

theorem refl (x : Desugared α) : InStep ctx x x := Or.inr (.refl x)

theorem bind (first : InStep ctx x y) (next : ∀ a, InStep ctx (f a) (g a)) :
    InStep ctx (x >>= f) (y >>= g) := by
  rcases first with ⟨pattern, l, base, name, trail, rfl⟩ | ⟨a⟩ | same
  · exact Or.inl ⟨pattern, l, base, name, trail, rfl⟩
  · exact next a
  · exact Or.inr (.error same)

theorem within (frame : Frame) (h : InStep ctx x y) :
    InStep ctx (Desugared.within frame x) (Desugared.within frame y) := by
  rcases h with ⟨pattern, l, base, name, trail, rfl⟩ | ⟨a⟩ | same
  · exact Or.inl ⟨pattern, l, base, name, trail ++ [frame], rfl⟩
  · exact Or.inr (.ok a)
  · refine Or.inr (.error ?_)
    rw [Refusal.withoutRole_within, Refusal.withoutRole_within, same]

/-- One step of a walk that builds its result from a part. -/
theorem map (h : InStep ctx x y) (f : α → β) :
    InStep ctx (x >>= fun a => pure (f a)) (y >>= fun a => pure (f a)) :=
  h.bind fun _ => refl _

end InStep

end Desugared

/-! ## Terms -/

section

open Desugared

variable {ctx : Context}

mutual

theorem Expr.inStep (role : ctx ≠ .body) (e : Expr) :
    InStep ctx (e.desugar ctx) (e.desugar .guard) := by
  cases e with
  | lit l v | var l v | funRef l name arity | recordIndex l name field => exact .refl _
  | foreign l tag raw =>
      rw [Expr.desugar, Expr.desugar]
      exact .within _ (Or.inr (.error rfl))
  | tuple l es | block l es =>
      rw [Expr.desugar, Expr.desugar]
      exact .within _ ((Expr.inStep_list role es).map _)
  | unOp l op a | catching l a | recordField l a name field =>
      rw [Expr.desugar, Expr.desugar]
      exact .within _ ((Expr.inStep role a).map _)
  | cons l a b | binOp l op a b | remote l a b =>
      rw [Expr.desugar, Expr.desugar]
      exact .within _ <| (Expr.inStep role a).bind fun _ => (Expr.inStep role b).map _
  | bind l p a =>
      rw [Expr.desugar, Expr.desugar]
      exact .within _ <| InStep.bind (.refl _) fun _ => (Expr.inStep role a).map _
  | remoteFunRef l m f a =>
      rw [Expr.desugar, Expr.desugar]
      exact .within _ <| (Expr.inStep role m).bind fun _ => (Expr.inStep role f).bind fun _ =>
        (Expr.inStep role a).map _
  | call l f args =>
      rw [Expr.desugar, Expr.desugar]
      exact .within _ <| (Expr.inStep role f).bind fun _ => (Expr.inStep_list role args).map _
  | bin l ss =>
      rw [Expr.desugar, Expr.desugar]
      exact .within _ ((Segment.inStep_list role ss).map _)
  | listComp l t qs | binComp l t qs =>
      rw [Expr.desugar, Expr.desugar]
      exact .within _ <| (Expr.inStep role t).bind fun _ => (Qualifier.inStep_list role qs).map _
  | ifs l cs | closure l cs | namedClosure l name cs =>
      rw [Expr.desugar, Expr.desugar]
      exact .refl _
  | caseOf l s cs =>
      rw [Expr.desugar, Expr.desugar]
      exact .within _ <| (Expr.inStep role s).bind fun _ => .refl _
  | tryOf l es cs hs after =>
      rw [Expr.desugar, Expr.desugar]
      exact .within _ <| (Expr.inStep_list role es).bind fun _ => InStep.bind (.refl _) fun _ =>
        InStep.bind (.refl _) fun _ => (Expr.inStep_list role after).map _
  | receive l cs after =>
      rw [Expr.desugar, Expr.desugar]
      exact .within _ <| InStep.bind (.refl _) fun _ => (After.inStep_opt role after).map _
  | record l base name fs =>
      rw [Expr.desugar, Expr.desugar]
      exact .within _ <| (Expr.inStep_opt role base).bind fun _ =>
        (RecordField.inStep_list role fs).map _
  | exception l kind p stack =>
      rw [Expr.desugar, Expr.desugar]
      exact .within _ <| (Expr.inStep role kind).bind fun _ => (Expr.inStep role p).bind fun _ =>
        (Expr.inStep_opt role stack).map _
  | map l base es =>
      rw [Expr.desugar, Expr.desugar]
      refine .within _ <| (Expr.inStep_opt role base).bind fun _ =>
        (Entry.inStep_list role es).bind fun _ => ?_
      rw [if_neg role, if_neg (by decide)]
      exact .refl _
  | field l base name =>
      rcases base with _ | b
      · exact .refl _
      · have below := Expr.inStep role b
        cases root : b.isEmptyAtom with
        | true =>
            simp only [Expr.desugar, root]
            exact .within _ (below.map _)
        | false =>
            -- The roles part here, and only here.
            simp only [Expr.desugar, root]
            cases ctx with
            | pattern => exact .within _ (Or.inl ⟨rfl, l, b, name, [], rfl⟩)
            | body => exact absurd rfl role
            | undefined | guard => exact .within _ (below.map _)
termination_by structural e

theorem Expr.inStep_list (role : ctx ≠ .body) (es : List Expr) :
    InStep ctx (Expr.desugarList ctx es) (Expr.desugarList .guard es) := by
  cases es with
  | nil => exact .refl _
  | cons e es =>
      rw [Expr.desugarList, Expr.desugarList]
      exact (Expr.inStep role e).bind fun _ => (Expr.inStep_list role es).map _
termination_by structural es

theorem Expr.inStep_opt (role : ctx ≠ .body) (e : Option Expr) :
    InStep ctx (Expr.desugarOpt ctx e) (Expr.desugarOpt .guard e) := by
  cases e with
  | none => exact .refl _
  | some e =>
      rw [Expr.desugarOpt, Expr.desugarOpt]
      exact (Expr.inStep role e).map _
termination_by structural e

theorem Segment.inStep_list (role : ctx ≠ .body) (ss : List Segment) :
    InStep ctx (Segment.desugarList ctx ss) (Segment.desugarList .guard ss) := by
  cases ss with
  | nil => exact .refl _
  | cons s ss =>
      obtain ⟨l, e, size, types⟩ := s
      rw [Segment.desugarList, Segment.desugarList]
      exact (Expr.inStep role e).bind fun _ => (Expr.inStep_opt role size).bind fun _ =>
        (Segment.inStep_list role ss).map _
termination_by structural ss

theorem Qualifier.inStep (role : ctx ≠ .body) (q : Qualifier) :
    InStep ctx (q.desugar ctx) (q.desugar .guard) := by
  cases q with
  | generate l p s | binGenerate l p s =>
      rw [Qualifier.desugar, Qualifier.desugar]
      exact (Expr.inStep role p).bind fun _ => (Expr.inStep role s).map _
  | filter test =>
      rw [Qualifier.desugar, Qualifier.desugar]
      exact (Expr.inStep role test).map _
termination_by structural q

theorem Qualifier.inStep_list (role : ctx ≠ .body) (qs : List Qualifier) :
    InStep ctx (Qualifier.desugarList ctx qs) (Qualifier.desugarList .guard qs) := by
  cases qs with
  | nil => exact .refl _
  | cons q qs =>
      rw [Qualifier.desugarList, Qualifier.desugarList]
      exact (Qualifier.inStep role q).bind fun _ => (Qualifier.inStep_list role qs).map _
termination_by structural qs

theorem RecordField.inStep_list (role : ctx ≠ .body) (fs : List RecordField) :
    InStep ctx (RecordField.desugarList ctx fs) (RecordField.desugarList .guard fs) := by
  cases fs with
  | nil => exact .refl _
  | cons f fs =>
      obtain ⟨l, name, e⟩ := f
      rw [RecordField.desugarList, RecordField.desugarList]
      exact (Expr.inStep role e).bind fun _ => (RecordField.inStep_list role fs).map _
termination_by structural fs

theorem Entry.inStep_list (role : ctx ≠ .body) (es : List Entry) :
    InStep ctx (Entry.desugarList ctx es) (Entry.desugarList .guard es) := by
  cases es with
  | nil => exact .refl _
  | cons e es =>
      obtain ⟨l, key, e⟩ := e
      rw [Entry.desugarList, Entry.desugarList]
      exact (Expr.inStep role e).bind fun _ => (Entry.inStep_list role es).map _
termination_by structural es

theorem After.inStep_opt (role : ctx ≠ .body) (after : Option After) :
    InStep ctx (After.desugarOpt ctx after) (After.desugarOpt .guard after) := by
  cases after with
  | none => exact .refl _
  | some after =>
      obtain ⟨timeout, es⟩ := after
      rw [After.desugarOpt, After.desugarOpt]
      exact (Expr.inStep role timeout).bind fun _ => (Expr.inStep_list role es).map _
termination_by structural after

end

end

/-! ## Units -/

namespace Site

theorem context_of_mem_each {α : Type} {ctx : Context} {node : α → Part} {xs : List α} {c : Site}
    (h : c ∈ each ctx node xs) : c.context = ctx := by
  obtain ⟨x, -, rfl⟩ := mem_each.mp h
  rfl

theorem context_of_mem_belowAfter {ctx : Context} {after : Option After} {c : Site}
    (h : c ∈ belowAfter ctx after) : c.context = ctx := by
  rcases after with _ | ⟨timeout, es⟩
  · cases h
  · exact context_of_mem_each h

/-- Only the left side of a match has another role than the expression around it. -/
theorem context_of_mem_belowExpr {ctx : Context} {e : Expr} {c : Site} (h : c ∈ belowExpr ctx e) :
    c.context = ctx ∨ c.context = .pattern := by
  cases e with
  | bind l p a =>
      rcases List.mem_cons.mp h with rfl | h
      · exact Or.inr rfl
      · cases List.mem_singleton.mp h
        exact Or.inl rfl
  | _ =>
      left
      simp only [belowExpr, List.mem_append] at h
      grind [context_of_mem_each, context_of_mem_belowAfter]

/-- Below a site that has a role, and in the parts of a clause, all sites have roles. -/
theorem context_ne_undefined_of_mem_children {s : Site}
    (h : s.context ≠ .undefined ∨ ∃ c, s.part = .clause c) :
    ∀ c ∈ s.children, c.context ≠ .undefined := by
  obtain ⟨ctx, p⟩ := s
  intro c hc
  cases p with
  | clause clause =>
      simp only [children, List.mem_append] at hc
      grind [context_of_mem_each]
  | expr e =>
      have role : ctx ≠ .undefined := by simpa using h
      rcases context_of_mem_belowExpr hc with same | pattern
      · rw [same]
        exact role
      · rw [pattern]
        decide
  | qualifier q =>
      have role : ctx ≠ .undefined := by simpa using h
      cases q <;> rwa [context_of_mem_each hc]
  | segment _ =>
      have role : ctx ≠ .undefined := by simpa using h
      simp only [children, List.mem_append] at hc
      grind [context_of_mem_each]
  | recordField _ | entry _ =>
      have role : ctx ≠ .undefined := by simpa using h
      rwa [context_of_mem_each hc]

theorem context_ne_undefined (s : Site) (role : s.context ≠ .undefined) :
    ∀ n ∈ s.nodes, n.context ≠ .undefined := by
  induction s using Site.induction with
  | step s ih =>
      have below := context_ne_undefined_of_mem_children (Or.inl role)
      rw [forall_mem_nodes]
      refine ⟨role, ?_⟩
      intro c hc
      exact ih c hc (below c hc)

/-- A clause has no role itself, but no offence is a clause. -/
theorem context_ne_undefined_of_mem_offences {ctx : Context} {c : Clause} {above : List Site} :
    ∀ o ∈ offences above ⟨ctx, .clause c⟩, o.context ≠ .undefined := by
  intro o ho
  obtain ⟨v, hv, found⟩ := List.mem_filterMap.mp ho
  have site : v.site ∈ nodes ⟨ctx, .clause c⟩ := by
    rw [← map_site_walk above]
    exact List.mem_map_of_mem hv
  unfold Visit.offence? at found
  split at found
  · next e part =>
      split at found
      · cases found
        rw [nodes_eq, List.mem_cons, List.mem_flatMap] at site
        rcases site with same | ⟨d, hd, below⟩
        · rw [same] at part
          cases part
        · have role := context_ne_undefined_of_mem_children (Or.inr ⟨c, rfl⟩) d hd
          exact context_ne_undefined d role _ below
      · cases found
  · cases found

end Site

theorem Form.context_ne_undefined_of_mem_offences {f : Form} :
    ∀ o ∈ f.offences, o.context ≠ .undefined := by
  intro o ho
  obtain ⟨o', ho', rfl⟩ := List.mem_map.mp ho
  cases f with
  | function l name arity cs =>
      obtain ⟨c, hc, ho'⟩ := List.mem_flatMap.mp ho'
      obtain ⟨clause, -, rfl⟩ := Site.mem_each.mp hc
      exact Site.context_ne_undefined_of_mem_offences o' ho'
  | _ => cases ho'

theorem Session.context_ne_undefined_of_mem_offences {s : Session} {fs : List Form} :
    ∀ found ∈ s.offences fs, found.2.context ≠ .undefined := by
  induction fs generalizing s with
  | nil => simp [offences]
  | cons f fs ih =>
      rw [offences, List.forall_mem_append]
      refine ⟨?_, ih⟩
      intro found hfound
      obtain ⟨o, ho, rfl⟩ := List.mem_map.mp hfound
      exact Form.context_ne_undefined_of_mem_offences o ho

theorem Offence.context_of_report {o : Offence} {file file' : String} {node : Expr} {ctx : Context}
    {trail : List Frame} (h : o.report file = .missingRule file' (.unsupported node ctx trail)) :
    o.context = ctx := by
  unfold Offence.report at h
  split at h
  · cases h
  · cases h
    rfl

/-- Every gap that a session reports was met in a role, since functions hold nothing but clauses. -/
theorem Session.context_ne_undefined_of_transform {s : Session} {fs : List Form} {file : String}
    {node : Expr} {ctx : Context} {trail : List Frame}
    (h : (s.transform fs).1 = .error (.missingRule file (.unsupported node ctx trail))) :
    ctx ≠ .undefined := by
  have reports := s.transform_reports fs
  split at reports
  · obtain ⟨fs', run⟩ := reports
    rw [h] at run
    cases run
  · next file' o os found =>
      rw [h] at reports
      have first : (file', o) ∈ s.offences fs := by
        rw [found]
        exact List.mem_cons_self
      rw [← Offence.context_of_report (Except.error.inj reports).symm]
      exact context_ne_undefined_of_mem_offences (file', o) first

/-- Roles that are no body differ in nothing but the refusal of field accesses in patterns. Without a
role and in a guard, desugaring yields the same tree, or is refused for the same node with the same
trail, or for the same malformed construct. In a pattern it does the same as in a guard unless it
refuses a field access; so what it accepts in a pattern becomes the same tree in a guard. And no gap
in the rules is ever reported for a unit in the role of code outside of clauses. -/
theorem roles_in_step :
    (∀ e : Expr, Desugared.SameUpTo Refusal.withoutRole (e.desugar .undefined) (e.desugar .guard)) ∧
    (∀ e : Expr, (e.desugar .pattern).RefusesField ∨
      Desugared.SameUpTo Refusal.withoutRole (e.desugar .pattern) (e.desugar .guard)) ∧
    (∀ e e' : Expr, e.desugar .pattern = .ok e' → e.desugar .guard = .ok e') ∧
    ∀ (s : Session) (fs : List Form) (file : String) (node : Expr) (ctx : Context)
      (trail : List Frame),
      (s.transform fs).1 = .error (.missingRule file (.unsupported node ctx trail)) →
        ctx ≠ .undefined := by
  have unplaced (e : Expr) :
      Desugared.InStep .undefined (e.desugar .undefined) (e.desugar .guard) :=
    Expr.inStep (by decide) e
  have pattern (e : Expr) : Desugared.InStep .pattern (e.desugar .pattern) (e.desugar .guard) :=
    Expr.inStep (by decide) e
  refine ⟨?_, ?_, ?_, ?_⟩
  · intro e
    rcases unplaced e with ⟨not_pattern, -⟩ | same
    · cases not_pattern
    · exact same
  · intro e
    rcases pattern e with ⟨-, refused⟩ | same
    · exact Or.inl refused
    · exact Or.inr same
  · intro e e' h
    rcases pattern e with ⟨-, l, base, name, trail, refused⟩ | same
    · rw [h] at refused
      cases refused
    · exact same.eq_ok_iff.mp h
  · intro s fs file node ctx trail h
    exact Session.context_ne_undefined_of_transform h

/-- A closure inside of a pattern has a body of its own, so its aggregate becomes a call on both
ways, while the aggregate around it stays. The node that is refused in the unit is a pattern's. -/
theorem roles_in_step_closure :
    let l := Loc.onLine 1
    let closure (e : Expr) : Expr := .closure l [⟨l, [], [], [e]⟩]
    let pattern (e : Expr) : Expr := .map l none [⟨l, "k", closure e⟩]
    let access : Expr := .field l (some (.var l "X")) "k"
    let unit : List Form := [.function l "f" 1 [⟨l, [.tuple l [access]], [], []⟩]]
    ((pattern (.map l none [])).desugar .pattern = .ok (pattern (Container.new l)) ∧
      (pattern (.map l none [])).desugar .guard = .ok (pattern (Container.new l))) ∧
    (Session.new.transform unit).1 = .error (.missingRule "nofile" (.unsupported access .pattern
      [⟨"field", l⟩, ⟨"tuple", l⟩, ⟨"clause", l⟩, ⟨"function f/1", l⟩])) ∧
    Context.pattern ≠ .undefined := by
  intro l closure pattern access unit
  obtain ⟨-, -, accepted, roles⟩ := roles_in_step
  have run : (pattern (.map l none [])).desugar .pattern = .ok (pattern (Container.new l)) := rfl
  have refused : (Session.new.transform unit).1 =
      .error (.missingRule "nofile" (.unsupported access .pattern
        [⟨"field", l⟩, ⟨"tuple", l⟩, ⟨"clause", l⟩, ⟨"function f/1", l⟩])) := rfl
  exact ⟨⟨run, accepted _ _ run⟩, refused, roles _ _ _ _ _ _ refused⟩

end Unsugar
