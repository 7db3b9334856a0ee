import Unsugar.Proofs.Desugar.Transform
import Mathlib.Data.List.Induction

/-!
# Sessions over several units

A session is asked for one unit after the other and remembers a single thing, the last file marker
that it met. It meets the forms of a unit up to the first function that is refused, so markers
count even in a unit that fails behind them, and those behind the failure do not. The marker
appears in the reports of refusals and nowhere else: what becomes of a function depends on the
function alone.

Main statement: outcome, report and file of any call in any session, told from the forms met before
it (`transform_in_session`).
-/

namespace Unsugar

/-! ## What desugaring keeps of a function -/

/-- Two clauses of one outline: they agree in location and in how much stands in each of their
parts. -/
structure Clause.SameOutline (c c' : Clause) : Prop where
  loc : c'.loc = c.loc
  patterns : c'.patterns.length = c.patterns.length
  /-- As many guards, and in each of them as many tests. -/
  guards : c'.guards.map List.length = c.guards.map List.length
  body : c'.body.length = c.body.length

theorem Expr.lengths_desugarGuards {ctx : Context} {gs gs' : List (List Expr)}
    (h : Expr.desugarGuards ctx gs = .ok gs') : gs'.map List.length = gs.map List.length := by
  induction gs generalizing gs' with
  | nil =>
      cases h
      rfl
  | cons g gs ih =>
      rw [Expr.desugarGuards] at h
      obtain ⟨g₁, hg, h⟩ := Except.bind_eq_ok.mp h
      obtain ⟨gs₁, hgs, h⟩ := Except.bind_eq_ok.mp h
      cases h
      rw [List.map_cons, List.map_cons, length_desugarList hg, ih hgs]

theorem Clause.sameOutline_desugar {c c' : Clause} (h : c.desugar = .ok c') : SameOutline c c' := by
  obtain ⟨l, patterns, guards, body⟩ := c
  rw [Clause.desugar, Desugared.within_eq_ok] at h
  obtain ⟨patterns', hpatterns, h⟩ := Except.bind_eq_ok.mp h
  obtain ⟨guards', hguards, h⟩ := Except.bind_eq_ok.mp h
  obtain ⟨body', hbody, h⟩ := Except.bind_eq_ok.mp h
  cases h
  exact ⟨rfl, Expr.length_desugarList hpatterns, Expr.lengths_desugarGuards hguards,
    Expr.length_desugarList hbody⟩

theorem Clause.sameOutline_desugarList {cs cs' : List Clause}
    (h : Clause.desugarList cs = .ok cs') :
    List.Forall₂ SameOutline cs cs' := by
  induction cs generalizing cs' with
  | nil =>
      cases h
      exact .nil
  | cons c cs ih =>
      rw [Clause.desugarList] at h
      obtain ⟨c₁, hc, h⟩ := Except.bind_eq_ok.mp h
      obtain ⟨cs₁, hcs, h⟩ := Except.bind_eq_ok.mp h
      cases h
      exact .cons (sameOutline_desugar hc) (ih hcs)

namespace Form

/-- What a form is turned into: a function keeps its head and the outlines of its clauses, which are
desugared by themselves; all other forms stay as they are. -/
def TurnsInto : Form → Form → Prop
  | .function l name arity cs, f' => ∃ cs', f' = .function l name arity cs' ∧
      Clause.desugarList cs = .ok cs' ∧ List.Forall₂ Clause.SameOutline cs cs'
  | f, f' => f' = f

/-- Every form but a function whose clauses are refused. -/
def isAccepted : Form → Bool
  | .function _ _ _ cs => (Clause.desugarList cs).isOk
  | _ => true

/-- The forms of a unit that are met: those before the first function that is refused. -/
def met (fs : List Form) : List Form := fs.takeWhile isAccepted

def markerName? : Form → Option String
  | .file _ name _ => some name
  | _ => none

/-- The name in the last file marker among some forms. -/
def lastMarker? (fs : List Form) : Option String := (fs.filterMap markerName?).getLast?

theorem isAccepted_function {l : Loc} {name : String} {arity : UInt64} {cs : List Clause} :
    (Form.function l name arity cs).isAccepted = true ↔ ∃ cs', Clause.desugarList cs = .ok cs' := by
  cases h : Clause.desugarList cs <;> simp [isAccepted, h, Except.isOk, Except.toBool]

theorem forall_isAccepted_iff {fs : List Form} :
    (∀ f ∈ fs, f.isAccepted = true) ↔
      ∀ l name arity cs, .function l name arity cs ∈ fs →
        ∃ cs', Clause.desugarList cs = .ok cs' := by
  constructor
  · intro accepted l name arity cs hf
    exact isAccepted_function.mp (accepted _ hf)
  · intro h f hf
    cases f with
    | function l name arity cs => exact isAccepted_function.mpr (h l name arity cs hf)
    | _ => rfl

theorem met_eq_self {fs : List Form} (accepted : ∀ f ∈ fs, f.isAccepted = true) : met fs = fs := by
  have whole : (fs ++ []).takeWhile isAccepted = fs ++ [].takeWhile isAccepted :=
    List.takeWhile_append_of_pos accepted
  rwa [List.takeWhile_nil, List.append_nil] at whole

theorem met_append_refused {before behind : List Form} {l : Loc} {name : String} {arity : UInt64}
    {cs : List Clause} {r : Refusal} (accepted : ∀ f ∈ before, f.isAccepted = true)
    (h : Clause.desugarList cs = .error r) :
    met (before ++ .function l name arity cs :: behind) = before := by
  have refused : ¬ (Form.function l name arity cs).isAccepted = true := by
    rw [isAccepted_function, h]
    simp
  rw [met, List.takeWhile_append_of_pos accepted, List.takeWhile_cons_of_neg refused,
    List.append_nil]

/-- A form is turned, or it is a function and refused. -/
theorem desugar_ok_or_refused (f : Form) :
    (f.isAccepted = true ∧ ∃ f', f.desugar = .ok f' ∧ f.TurnsInto f') ∨
      f.isAccepted = false ∧ ∃ l name arity cs r, f = .function l name arity cs ∧
        Clause.desugarList cs = .error r ∧
        f.desugar = .error (r.within ⟨s!"function {name}/{arity}", l⟩) := by
  cases f with
  | function l name arity cs =>
      cases h : Clause.desugarList cs with
      | ok cs' =>
          refine Or.inl ⟨isAccepted_function.mpr ⟨cs', h⟩, _, ?_, cs', rfl, h,
            Clause.sameOutline_desugarList h⟩
          simp [desugar, h]
      | error r =>
          refine Or.inr ⟨by simp [isAccepted, h, Except.isOk, Except.toBool], l, name, arity, cs, r,
            rfl, h, ?_⟩
          simp [desugar, h]
  | _ => exact Or.inl ⟨rfl, _, rfl, rfl⟩

end Form

/-! ## One call -/

namespace Session

/-- The session after several units, whether they were desugared or refused. -/
def after (s : Session) (units : List (List Form)) : Session :=
  units.foldl (fun s fs => (s.transform fs).2) s

theorem transform_cons_ok {s : Session} {f f' : Form} {fs : List Form} (h : f.desugar = .ok f') :
    s.transform (f :: fs) =
      (((s.see f).transform fs).1.map (f' :: ·), ((s.see f).transform fs).2) := by
  rw [transform, h]

theorem transform_cons_error {s : Session} {f : Form} {fs : List Form} {r : Refusal}
    (h : f.desugar = .error r) :
    s.transform (f :: fs) = (.error (.ofRefusal (s.see f).file r), s.see f) := by
  rw [transform, h]

/-- After a unit the session has seen the forms that were met. -/
theorem transform_session (s : Session) (fs : List Form) :
    (s.transform fs).2 = (Form.met fs).foldl see s := by
  induction fs generalizing s with
  | nil => rfl
  | cons f fs ih =>
      rcases f.desugar_ok_or_refused with
        ⟨accepted, f', hf, -⟩ | ⟨refused, l, name, arity, cs, r, rfl, -, hf⟩
      · rw [transform_cons_ok hf, Form.met, List.takeWhile_cons_of_pos accepted, List.foldl_cons]
        exact ih (s.see f)
      · rw [transform_cons_error hf, Form.met, List.takeWhile_cons_of_neg (by simp [refused])]
        rfl

theorem after_eq (s : Session) (units : List (List Form)) :
    s.after units = (units.flatMap Form.met).foldl see s := by
  induction units generalizing s with
  | nil => rfl
  | cons fs units ih =>
      show (s.transform fs).2.after units = _
      rw [ih, transform_session, List.flatMap_cons, List.foldl_append]

/-- Of all forms seen, only the last marker counts. -/
theorem file_foldl_see (s : Session) (fs : List Form) :
    (fs.foldl see s).file = (Form.lastMarker? fs).getD s.file := by
  induction fs using List.reverseRecOn with
  | nil => rfl
  | append_singleton fs f ih =>
      rw [List.foldl_concat, Form.lastMarker?, List.filterMap_append]
      cases f with
      | file l name line => simp [see, file, Form.markerName?]
      | _ =>
          simp only [see, Form.markerName?, List.filterMap_cons, List.filterMap_nil,
            List.append_nil]
          exact ih

/-- What a call gives: all forms turned as they are on their own, or the report of the first
function that is refused, against the file in force there. -/
theorem transform_outcome (s : Session) (fs : List Form) :
    match (s.transform fs).1 with
    | .ok fs' => (∀ f ∈ fs, f.isAccepted = true) ∧ List.Forall₂ Form.TurnsInto fs fs'
    | .error e => ∃ before l name arity cs behind r,
        fs = before ++ .function l name arity cs :: behind ∧
        (∀ f ∈ before, f.isAccepted = true) ∧ Clause.desugarList cs = .error r ∧
        e = .ofRefusal (before.foldl see s).file (r.within ⟨s!"function {name}/{arity}", l⟩) := by
  induction fs generalizing s with
  | nil => exact ⟨by simp, .nil⟩
  | cons f fs ih =>
      rcases f.desugar_ok_or_refused with
        ⟨accepted, f', hf, turned⟩ | ⟨-, l, name, arity, cs, r, rfl, hcs, hf⟩
      · rw [transform_cons_ok hf]
        have rest := ih (s.see f)
        cases run : ((s.see f).transform fs).1 with
        | ok fs' =>
            rw [run] at rest
            exact ⟨List.forall_mem_cons.mpr ⟨accepted, rest.1⟩, .cons turned rest.2⟩
        | error e =>
            rw [run] at rest
            obtain ⟨before, l, name, arity, cs, behind, r, rfl, hbefore, hcs, he⟩ := rest
            exact ⟨f :: before, l, name, arity, cs, behind, r, rfl,
              List.forall_mem_cons.mpr ⟨accepted, hbefore⟩, hcs, he⟩
      · rw [transform_cons_error hf]
        exact ⟨[], l, name, arity, cs, fs, r, rfl, by simp, hcs, rfl⟩

theorem transform_ok_iff_accepted (s : Session) (fs : List Form) :
    (∃ fs', (s.transform fs).1 = .ok fs') ↔ ∀ f ∈ fs, f.isAccepted = true := by
  have outcome := s.transform_outcome fs
  cases run : (s.transform fs).1 with
  | ok fs' =>
      rw [run] at outcome
      exact ⟨fun _ => outcome.1, fun _ => ⟨fs', rfl⟩⟩
  | error e =>
      rw [run] at outcome
      obtain ⟨before, l, name, arity, cs, behind, r, rfl, -, hcs, -⟩ := outcome
      constructor
      · rintro ⟨fs', hfs'⟩
        cases hfs'
      · intro accepted
        have := accepted (.function l name arity cs) (by simp)
        simp [Form.isAccepted, hcs, Except.isOk, Except.toBool] at this

/-- Two units in one call are as good as one after the other, except that the second is not begun
when the first is refused. -/
theorem transform_append (s : Session) (fs gs : List Form) :
    s.transform (fs ++ gs) =
      match s.transform fs with
      | (.ok fs', s') => ((s'.transform gs).1.map (fs' ++ ·), (s'.transform gs).2)
      | (.error e, s') => (.error e, s') := by
  induction fs generalizing s with
  | nil =>
      show s.transform gs = ((s.transform gs).1.map ([] ++ ·), (s.transform gs).2)
      rcases s.transform gs with ⟨e | gs', s'⟩ <;> rfl
  | cons f fs ih =>
      rw [List.cons_append]
      cases hf : f.desugar with
      | error r => rw [transform_cons_error hf, transform_cons_error hf]
      | ok f' =>
          rw [transform_cons_ok hf, transform_cons_ok hf, ih]
          rcases (s.see f).transform fs with ⟨e | fs', s'⟩
          · rfl
          · cases h : (s'.transform gs).1 <;> simp [h, Except.map]

end Session

/-- In a session of any beginning and any history, a unit is desugared if and only if the clauses of
every function in it are. Its forms then keep their number and order and each is turned as it is on
its own, so that neither other forms nor markers have a part in it. Otherwise the report is that of
the first function that is refused, against the last marker met before it in this unit or an earlier
one. The session stands at the last marker met afterwards, and a unit may be cut in two at any
place. -/
theorem transform_in_session (start : Session) (history : List (List Form)) (unit : List Form) :
    ((∃ unit', ((start.after history).transform unit).1 = .ok unit') ↔
      ∀ l name arity cs, Form.function l name arity cs ∈ unit →
        ∃ cs', Clause.desugarList cs = .ok cs') ∧
    (match ((start.after history).transform unit).1 with
      | .ok unit' => Form.met unit = unit ∧ List.Forall₂ Form.TurnsInto unit unit'
      | .error e => ∃ before l name arity cs behind r,
          unit = before ++ .function l name arity cs :: behind ∧ Form.met unit = before ∧
          Clause.desugarList cs = .error r ∧
          e = .ofRefusal
            ((Form.lastMarker? (history.flatMap Form.met ++ before)).getD start.file)
            (r.within ⟨s!"function {name}/{arity}", l⟩)) ∧
    ((start.after history).transform unit).2.file =
      (Form.lastMarker? (history.flatMap Form.met ++ Form.met unit)).getD start.file ∧
    ∀ fs gs, (start.after history).transform (fs ++ gs) =
      match (start.after history).transform fs with
      | (.ok fs', s) => ((s.transform gs).1.map (fs' ++ ·), (s.transform gs).2)
      | (.error e, s) => (.error e, s) := by
  -- The file in force is the same however the forms before are cut into units.
  have file_eq (fs : List Form) : (fs.foldl Session.see (start.after history)).file =
      (Form.lastMarker? (history.flatMap Form.met ++ fs)).getD start.file := by
    rw [Session.after_eq, ← List.foldl_append, Session.file_foldl_see]
  refine ⟨?_, ?_, ?_, fun fs gs => Session.transform_append _ fs gs⟩
  · rw [Session.transform_ok_iff_accepted, Form.forall_isAccepted_iff]
  · have outcome := (start.after history).transform_outcome unit
    cases run : ((start.after history).transform unit).1 with
    | ok unit' =>
        rw [run] at outcome
        exact ⟨Form.met_eq_self outcome.1, outcome.2⟩
    | error e =>
        rw [run] at outcome
        obtain ⟨before, l, name, arity, cs, behind, r, rfl, accepted, hcs, rfl⟩ := outcome
        refine ⟨before, l, name, arity, cs, behind, r, rfl, ?_, hcs, by rw [file_eq]⟩
        exact Form.met_append_refused accepted hcs
  · rw [Session.transform_session, file_eq]

end Unsugar
