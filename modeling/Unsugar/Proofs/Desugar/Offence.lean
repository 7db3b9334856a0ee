import Unsugar.Proofs.Desugar.Transform

/-!
# The first offence

A unit is refused for its first offence in pre-order and for nothing else. The offences are found by
a walk that does not desugar: it meets the sites of the functions in order, each with the nodes
around it, and so has the whole report at hand at once. Desugaring builds the same report from the
inside, one frame at each node that the refusal passes.

Main statement: a unit is desugared if its functions hold no offence, and refused with the report of
the first one otherwise (`transform_reports_first_offence`).
-/

namespace Unsugar

/-! ## Frames -/

/-- The refusal as seen from beyond several nodes, the innermost first. -/
def Refusal.beyond (frames : List Frame) (r : Refusal) : Refusal := frames.foldl (flip within) r

/-- The offence as seen from beyond several nodes, the innermost first. -/
def Offence.beyond (frames : List Frame) (o : Offence) : Offence :=
  { o with trail := o.trail ++ frames }

theorem Refusal.beyond_unsupported (frames : List Frame) (e : Expr) (ctx : Context)
    (trail : List Frame) :
    beyond frames (.unsupported e ctx trail) = .unsupported e ctx (trail ++ frames) := by
  induction frames generalizing trail with
  | nil => simp [beyond]
  | cons f frames ih =>
      show beyond frames (.unsupported e ctx (trail ++ [f])) = _
      rw [ih, List.append_assoc, List.singleton_append]

theorem Refusal.beyond_malformed (frames : List Frame) (line : UInt32) (detail : String) :
    beyond frames (.malformed line detail) = .malformed line detail := by
  induction frames with
  | nil => rfl
  | cons f frames ih => exact ih

theorem Offence.refusal_beyond (frames : List Frame) (o : Offence) :
    (o.beyond frames).refusal = o.refusal.beyond frames := by
  obtain ⟨e, ctx, trail⟩ := o
  unfold refusal beyond
  dsimp only
  split
  · exact (Refusal.beyond_malformed _ _ _).symm
  · exact (Refusal.beyond_unsupported _ _ _ _).symm

/-- An outcome agrees with the offences found: it is a success if there are none, and otherwise the
refusal of the first one, as seen from beyond the frames given. -/
def Reports {α : Type} (frames : List Frame) (outcome : Desugared α) (os : List Offence) : Prop :=
  match outcome with
  | .ok _ => os = []
  | .error r => os.head?.map Offence.refusal = some (r.beyond frames)

/-! ## Terms -/

namespace Site

/-- The frames of the nodes that a visited site stands in, from its own one outwards. -/
def Visit.trail (v : Visit) : List Frame := (v.site :: v.above).filterMap frame?

def Visit.offence? (v : Visit) : Option Offence :=
  match v.site.part with
  | .expr e => if v.site.isOffence then some ⟨e, v.site.context, v.trail⟩ else none
  | _ => none

/-- The offences of a term in pre-order, for a term that stands below the sites given. -/
def offences (above : List Site) (s : Site) : List Offence :=
  (walk above s).filterMap Visit.offence?

theorem offences_eq (above : List Site) (s : Site) :
    offences above s =
      (Visit.offence? ⟨s, above⟩).toList ++ s.children.flatMap (offences (s :: above)) := by
  rw [offences, walk_eq, List.filterMap_cons, List.filterMap_flatMap]
  cases Visit.offence? ⟨s, above⟩ <;> rfl

/-- A refusal that leaves a site has passed the frame of the site. -/
theorem beyond_outward (above : List Site) (s : Site) (r : Refusal) :
    (s.outward r).beyond (above.filterMap frame?) = r.beyond ((s :: above).filterMap frame?) := by
  rw [outward, List.filterMap_cons]
  cases s.frame? <;> rfl

theorem reports_mapM {frames : List Frame} {found : Site → List Offence} {cs : List Site}
    (h : ∀ c ∈ cs, Reports frames c.desugar (found c)) :
    Reports frames (cs.mapM desugar) (cs.flatMap found) := by
  induction cs with
  | nil => rfl
  | cons c cs ih =>
      obtain ⟨hc, hcs⟩ := List.forall_mem_cons.mp h
      rw [List.mapM_cons, List.flatMap_cons]
      cases run : c.desugar with
      | error r =>
          rw [run, Reports] at hc
          obtain ⟨o, ho, hr⟩ := Option.map_eq_some_iff.mp hc
          simp [Reports, ho, hr]
      | ok d =>
          rw [run, Reports] at hc
          have rest := ih hcs
          rw [hc, List.nil_append]
          cases runs : cs.mapM desugar with
          | error r =>
              rw [runs] at rest
              exact rest
          | ok ds =>
              rw [runs] at rest
              exact rest

theorem offence?_of_isOffence {above : List Site} {s : Site} {e : Expr} (part : s.part = .expr e)
    (h : s.isOffence = true) :
    Visit.offence? ⟨s, above⟩ = some ⟨e, s.context, (s :: above).filterMap frame?⟩ := by
  simp [Visit.offence?, part, h, Visit.trail]

theorem offence?_of_not_isOffence {above : List Site} {s : Site} (h : s.isOffence = false) :
    Visit.offence? ⟨s, above⟩ = none := by
  unfold Visit.offence?
  split <;> simp [h]

/-- A term is refused for its first offence. The claim holds wherever the term stands, since the
refusal gathers the frames of the term and the walk all others. -/
theorem desugar_reports (s : Site) : ∀ above : List Site,
    Reports (above.filterMap frame?) s.desugar (offences above s) := by
  induction s using Site.induction with
  | step s ih =>
      intro above
      rw [offences_eq]
      cases h : s.isOffence with
      | true =>
          obtain ⟨e, part, refused⟩ := desugar_offence h
          rw [refused, offence?_of_isOffence part h, Reports, beyond_outward,
            ← Offence.refusal_beyond]
          rfl
      | false =>
          -- The children are desugared in the order in which the walk goes on.
          have below := reports_mapM fun c hc => ih c hc (s :: above)
          have spec := follows h
          rw [offence?_of_not_isOffence h, Option.toList_none, List.nil_append]
          rw [Follows] at spec
          cases run : s.desugar with
          | ok t =>
              rw [run] at spec
              obtain ⟨cs, hcs, -⟩ := spec
              rwa [hcs] at below
          | error r =>
              rw [run] at spec
              obtain ⟨r', hr', rfl⟩ := spec
              rw [hr'] at below
              rwa [Reports, beyond_outward]

/-- A term is free of offences if no site of it is one. -/
theorem offences_eq_nil_iff (s : Site) :
    ∀ above : List Site, offences above s = [] ↔ ∀ n ∈ s.nodes, n.isOffence = false := by
  intro above
  rw [offences, List.filterMap_eq_nil_iff, ← map_site_walk above, List.forall_mem_map]
  apply forall₂_congr
  rintro ⟨n, above⟩ -
  constructor
  · intro none
    cases h : n.isOffence with
    | false => rfl
    | true =>
        obtain ⟨e, part, -⟩ := desugar_offence h
        rw [offence?_of_isOffence part h] at none
        cases none
  · exact offence?_of_not_isOffence

end Site

/-! ## Units -/

namespace Form

/-- The offences of a form in pre-order; the function is the last node on the way outwards. -/
def offences (f : Form) : List Offence :=
  (f.children.flatMap (Site.offences [])).map (Offence.beyond f.frame?.toList)

theorem outward_eq_beyond (f : Form) (r : Refusal) : f.outward r = r.beyond f.frame?.toList := by
  rw [outward]
  cases f.frame? <;> rfl

theorem desugar_reports (f : Form) : Reports [] f.desugar f.offences := by
  have below :
      Reports [] (f.children.mapM Site.desugar) (f.children.flatMap (Site.offences [])) := by
    apply Site.reports_mapM
    intro c _
    exact c.desugar_reports []
  have spec := desugar_spec f
  cases run : f.desugar with
  | ok f' =>
      rw [run] at spec
      rw [spec, Reports] at below
      rw [Reports, offences, below, List.map_nil]
  | error r =>
      rw [run] at spec
      obtain ⟨r', hr', rfl⟩ := spec
      rw [hr', Reports] at below
      obtain ⟨o, ho, hr⟩ := Option.map_eq_some_iff.mp below
      rw [Reports, offences, List.head?_map, ho, Option.map_some, Option.map_some,
        Offence.refusal_beyond, hr, outward_eq_beyond]
      rfl

theorem offences_eq_nil_iff (f : Form) :
    f.offences = [] ↔ ∀ c ∈ f.children, ∀ n ∈ c.nodes, n.isOffence = false := by
  rw [offences, List.map_eq_nil_iff, List.flatMap_eq_nil_iff]
  apply forall₂_congr
  intro c _
  exact c.offences_eq_nil_iff []

end Form

/-- What the host is told about an offence: a complaint with the line of a field that has no base,
and a gap in the rules with the node, its role and its trail otherwise. -/
def Offence.report (file : String) (o : Offence) : TransformError :=
  match o.node with
  | .field l none name => .failed file [⟨l.line, toolName, (Refusal.missingBase l name).message⟩]
  | e => .missingRule file (.unsupported e o.context o.trail)

theorem Offence.report_eq (file : String) (o : Offence) :
    o.report file = .ofRefusal file o.refusal := by
  obtain ⟨e, ctx, trail⟩ := o
  cases e with
  | field l base name => cases base <;> rfl
  | _ => rfl

namespace Session

/-- The offences of a unit in order, each with the file that is in force there. -/
def offences (s : Session) : List Form → List (String × Offence)
  | [] => []
  | f :: rest =>
      let s := s.see f
      f.offences.map (s.file, ·) ++ s.offences rest

theorem offences_eq_nil_iff (s : Session) (fs : List Form) :
    s.offences fs = [] ↔ ∀ f ∈ fs, f.offences = [] := by
  induction fs generalizing s with
  | nil => simp [offences]
  | cons f fs ih => simp [offences, ih]

theorem transform_reports (s : Session) (fs : List Form) :
    match s.offences fs with
    | [] => ∃ fs', (s.transform fs).1 = .ok fs'
    | (file, o) :: _ => (s.transform fs).1 = .error (o.report file) := by
  induction fs generalizing s with
  | nil => exact ⟨[], rfl⟩
  | cons f fs ih =>
      have here := f.desugar_reports
      rw [transform, offences]
      cases run : f.desugar with
      | error r =>
          rw [run, Reports] at here
          obtain ⟨o, ho, rfl⟩ := Option.map_eq_some_iff.mp here
          obtain ⟨os, hos⟩ := List.head?_eq_some_iff.mp ho
          simp only [hos, List.map_cons, List.cons_append]
          rw [Offence.report_eq]
      | ok f' =>
          rw [run, Reports] at here
          have rest := ih (s.see f)
          simp only [here, List.map_nil, List.nil_append]
          split at rest
          · next none =>
              obtain ⟨fs', run⟩ := rest
              simp [run, Except.map]
          · next file o os some => simp [rest, Except.map]

end Session

/-- A unit is desugared if and only if no function of it holds an offence; a unit with offences is
refused for the first of them in pre-order, whose node, role and trail are reported as they stand in
the input. -/
theorem transform_reports_first_offence (s : Session) (fs : List Form) :
    ((∃ fs', (s.transform fs).1 = .ok fs') ↔
      ∀ f ∈ fs, ∀ c ∈ f.children, ∀ n ∈ c.nodes, n.isOffence = false) ∧
    match s.offences fs with
    | [] => ∃ fs', (s.transform fs).1 = .ok fs'
    | (file, o) :: _ => (s.transform fs).1 = .error (o.report file) := by
  have reports := s.transform_reports fs
  refine ⟨?_, reports⟩
  simp only [← Form.offences_eq_nil_iff]
  rw [← s.offences_eq_nil_iff fs]
  constructor
  · rintro ⟨fs', run⟩
    split at reports
    · next none => exact none
    · rw [reports] at run
      cases run
  · intro none
    rw [none] at reports
    exact reports

-- Two offences in one tuple: only the first one counts, and the function ends its trail.
example :
    let l := Loc.onLine
    let body : Expr := .tuple (l 3) [.foreign (l 4) "shared" .null, .field (l 5) none "k"]
    let unit : List Form := [.fileMarker 1 "a.src", .function (l 2) "f" 0 [⟨l 2, [], [], [body]⟩]]
    (Session.new.transform unit).1 =
      .error (.missingRule "a.src" (.unsupported (.foreign (l 4) "shared" .null) .body
        [⟨"shared", l 4⟩, ⟨"tuple", l 3⟩, ⟨"clause", l 2⟩, ⟨"function f/0", l 2⟩])) := by
  rfl

end Unsugar
