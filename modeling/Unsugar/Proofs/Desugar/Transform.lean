import Unsugar.Proofs.Desugar.Outcome
import Unsugar.Desugar.Session

/-!
# Desugaring forms and units

Only the clauses of functions are desugared, and a session desugars its forms one by one. So what a
transformation makes of a unit is told by the sites below its forms.

Main statements: a form is desugared exactly when the sites below it are (`desugar_spec`), and a
unit when all its forms are (`transform_eq_ok_iff`).
-/

namespace Unsugar

namespace Form

/-- The sites directly below a form: the clauses of a function. They have no role of their own, and
set the roles of their parts. -/
def children : Form → List Site
  | .function _ _ _ cs => Site.each .undefined .clause cs
  | _ => []

/-- The frame that a function adds to the trail of a refusal. -/
def frame? : Form → Option Frame
  | .function l name arity _ => some ⟨s!"function {name}/{arity}", l⟩
  | _ => none

/-- A refusal as seen from outside the form. -/
def outward (f : Form) (r : Refusal) : Refusal := (f.frame?.map r.within).getD r

theorem desugar_spec (f : Form) :
    match f.desugar with
    | .ok f' => f.children.mapM Site.desugar = .ok f'.children
    | .error r => ∃ r', f.children.mapM Site.desugar = .error r' ∧ r = f.outward r' := by
  cases f with
  | function l name arity cs =>
      simp only [desugar, children, Site.mapM_clauses]
      cases Clause.desugarList cs with
      | error r => exact ⟨_, rfl, rfl⟩
      | ok cs' => rfl
  | _ => rfl

theorem desugar_ok {f f' : Form} (h : f.desugar = .ok f') :
    List.Forall₂ (fun c d => c.desugar = .ok d) f.children f'.children := by
  have spec := desugar_spec f
  rw [h] at spec
  exact Site.mapM_eq_ok_iff.mp spec

end Form

namespace Session

theorem transform_eq_ok_iff {s : Session} {fs fs' : List Form} :
    (s.transform fs).1 = .ok fs' ↔ List.Forall₂ (fun f f' => f.desugar = .ok f') fs fs' := by
  induction fs generalizing s fs' with
  | nil => cases fs' <;> simp [transform]
  | cons f fs ih =>
      rw [transform]
      cases hf : f.desugar with
      | error r => cases fs' <;> simp [hf]
      | ok f₁ =>
          have rest := @ih (s.see f)
          cases hrest : ((s.see f).transform fs).1 with
          | error r => cases fs' <;> simp [hf, ← rest, hrest, Except.map]
          | ok fs₁ => cases fs' <;> simp [hf, ← rest, hrest, Except.map]

end Session

end Unsugar
