import Unsugar.Proofs.Program.Settling
import Mathlib.Data.List.Infix

/-!
# Options with a history

Options are set step by step and may be built more than once. A build keeps the export type that it
found to go with the output in the place of one that the user gave, so later builds take it for
given. The format of a build therefore depends on the steps before it in three ways: by the last
export type that was given, or else by the first one that a build derived, or else by the last output.

Main statement: the format of a build by its history, and when it is the one of the last choices
(`format_of_history`). An earlier output can decide it for a later one
(`earlier_output_decides_format`).
-/

namespace Unsugar

namespace Options

/-! ## Steps -/

/-- A step of setting options. -/
inductive Step where
  | input (path : String)
  | output (path : String)
  | exportType (name : String)
  | dump
  | build
deriving DecidableEq, Repr

/-- The options after a step; a build that fails leaves them as they were. -/
def take (o : Options) : Step → Options
  | .input path => o.withInput path
  | .output path => o.withOutput path
  | .exportType name => o.withExportType name
  | .dump => o.withDump
  | .build =>
      match o.build with
      | .ok settled => settled
      | .error _ => o

/-- The options after a history of steps. -/
def after (steps : List Step) : Options := steps.foldl take default

theorem after_snoc (steps : List Step) (s : Step) : after (steps ++ [s]) = (after steps).take s := by
  rw [after, List.foldl_append]
  rfl

/-! ## What a history says -/

namespace Step

def output? : Step → Option String
  | output path => some path
  | _ => none

def export? : Step → Option String
  | exportType name => some name
  | _ => none

end Step

section History

variable (steps : List Step)

/-- The output that was chosen last. -/
def lastOutput? : Option String := (steps.filterMap Step.output?).getLast?

/-- The export type that was given last. -/
def lastExport? : Option String := (steps.filterMap Step.export?).getLast?

/-- The export type that goes with the output chosen last. -/
def exportOfOutput? : Option String := (lastOutput? steps).bind exportOfPath?

/-- The export type that goes with the output, if the last step is a build. -/
def derivedAtEnd? : Option String :=
  if steps.getLast? = some .build then exportOfOutput? steps else none

/-- The first export type that went with the output at a build. -/
def firstDerived? : Option String := steps.inits.findSome? derivedAtEnd?

/-- The format that the last choices come to, whatever was built before. -/
def formatOfChoices? : Option Format :=
  Format.chosen? (.dump ∈ steps) ((lastExport? steps).or (exportOfOutput? steps))

end History

theorem lastOutput?_snoc (steps : List Step) (s : Step) :
    lastOutput? (steps ++ [s]) = s.output?.or (lastOutput? steps) := by
  unfold lastOutput?
  rw [List.filterMap_append, List.getLast?_append]
  cases s <;> rfl

theorem lastExport?_snoc (steps : List Step) (s : Step) :
    lastExport? (steps ++ [s]) = s.export?.or (lastExport? steps) := by
  unfold lastExport?
  rw [List.filterMap_append, List.getLast?_append]
  cases s <;> rfl

theorem firstDerived?_snoc (steps : List Step) (s : Step) :
    firstDerived? (steps ++ [s]) = (firstDerived? steps).or (derivedAtEnd? (steps ++ [s])) := by
  unfold firstDerived?
  rw [List.inits_append, List.findSome?_append]
  simp

theorem firstDerived?_build (steps : List Step) :
    firstDerived? (steps ++ [.build]) = (firstDerived? steps).or (exportOfOutput? steps) := by
  rw [firstDerived?_snoc]
  simp [derivedAtEnd?, exportOfOutput?, lastOutput?_snoc, Step.output?]

theorem firstDerived?_of_ne {s : Step} (steps : List Step) (h : s ≠ .build) :
    firstDerived? (steps ++ [s]) = firstDerived? steps := by
  rw [firstDerived?_snoc]
  simp [derivedAtEnd?, h]

/-! ## What options remember of their history -/

/-- The part of options that decides their format, read off a history. -/
structure Recalls (o : Options) (steps : List Step) : Prop where
  dump : o.dump = decide (.dump ∈ steps)
  output : o.output = lastOutput? steps
  exportType : o.exportType = (lastExport? steps).or (firstDerived? steps)

theorem build_eq_ok {o settled : Options} : o.build = .ok settled ↔
    ∃ format, Format.chosen? o.dump o.exportInForce? = some format ∧
      settled = { o with exportType := o.exportInForce?, format } := by
  unfold build
  rcases settle_cases o with ⟨format, chosen, done⟩ | ⟨name, dump, given, unknown, refused⟩
  · rw [done]
    simp [chosen, eq_comm]
  · have none : Format.chosen? o.dump o.exportInForce? = none := by
      rw [dump, exportInForce?, given]
      exact Format.ofName?_eq_none.mpr unknown
    rw [refused]
    simp [none]

/-- After a build the export type is the one in force, also if the build fails: then it fails over
the one that was given. -/
theorem take_build (o : Options) :
    ∃ format, o.take .build = { o with exportType := o.exportInForce?, format } := by
  unfold take build
  rcases settle_cases o with ⟨format, -, done⟩ | ⟨name, -, given, -, refused⟩
  · rw [done]
    exact ⟨format, rfl⟩
  · rw [refused]
    have kept : o.exportInForce? = o.exportType := by
      rw [exportInForce?, given]
      rfl
    exact ⟨o.format, by rw [kept]⟩

/-- What one more step adds to what the options remember. -/
theorem Recalls.take {o : Options} {steps : List Step} (recalls : o.Recalls steps) (s : Step) :
    (o.take s).Recalls (steps ++ [s]) := by
  obtain ⟨dump, output, exportType⟩ := recalls
  cases s with
  | input path =>
      refine ⟨by simpa [Options.take, withInput] using dump, ?_, ?_⟩
      · rw [lastOutput?_snoc]
        exact output
      · rw [lastExport?_snoc, firstDerived?_of_ne _ (by simp)]
        exact exportType
  | output path =>
      refine ⟨by simpa [Options.take, withOutput] using dump, ?_, ?_⟩
      · rw [lastOutput?_snoc]
        rfl
      · rw [lastExport?_snoc, firstDerived?_of_ne _ (by simp)]
        exact exportType
  | exportType name =>
      refine ⟨by simpa [Options.take, withExportType] using dump, ?_, ?_⟩
      · rw [lastOutput?_snoc]
        exact output
      · rw [lastExport?_snoc]
        rfl
  | dump =>
      refine ⟨by simp [Options.take, withDump], ?_, ?_⟩
      · rw [lastOutput?_snoc]
        exact output
      · rw [lastExport?_snoc, firstDerived?_of_ne _ (by simp)]
        exact exportType
  | build =>
      obtain ⟨format, built⟩ := o.take_build
      rw [built]
      refine ⟨by simpa using dump, ?_, ?_⟩
      · rw [lastOutput?_snoc]
        exact output
      · rw [lastExport?_snoc, firstDerived?_build, ← Option.or_assoc]
        show o.exportInForce? = ((lastExport? steps).or (firstDerived? steps)).or _
        rw [exportInForce?, exportType, output]
        rfl

/-- After every history the options remember it. -/
theorem recalls_after (steps : List Step) : (after steps).Recalls steps := by
  induction steps using List.reverseRecOn with
  | nil => exact ⟨by simp [after, default], rfl, rfl⟩
  | append_singleton steps s ih =>
      rw [after_snoc]
      exact ih.take s

/-- What is in force at a build, read off the history before it. -/
theorem exportInForce?_after (steps : List Step) :
    (after steps).exportInForce? =
      (lastExport? steps).or ((firstDerived? steps).or (exportOfOutput? steps)) := by
  obtain ⟨-, output, exportType⟩ := recalls_after steps
  rw [exportInForce?, exportType, output, Option.or_assoc]
  rfl

end Options

open Options

/-- The format of a build by its history. It is a listing if a dump was asked for; else it is the one
named by the export type that was given last, or by the first one that an earlier build derived from
an output, or by the one that goes with the last output; else it is JSON. It is the one that the last
choices come to unless no dump was asked for, no export type was given and an earlier build derived
one that names another format. -/
theorem format_of_history {steps : List Step} {settled : Options}
    (h : (after steps).build = .ok settled) :
    some settled.format =
        Format.chosen? (.dump ∈ steps)
          ((lastExport? steps).or ((firstDerived? steps).or (exportOfOutput? steps))) ∧
      (some settled.format = formatOfChoices? steps ↔
        .dump ∈ steps ∨ lastExport? steps ≠ none ∨ ∀ name, firstDerived? steps = some name →
          Format.chosen? false (some name) = Format.chosen? false (exportOfOutput? steps)) := by
  obtain ⟨format, chosen, rfl⟩ := build_eq_ok.mp h
  rw [exportInForce?_after, (recalls_after steps).dump] at chosen
  refine ⟨chosen.symm, ?_⟩
  rw [← chosen, formatOfChoices?]
  by_cases dump : Step.dump ∈ steps
  · simp [dump, Format.chosen?_dump]
  cases lastExport? steps with
  | some name => simp
  | none =>
      cases firstDerived? steps with
      | some name => simp [dump]
      | none => simp

/-- An export type that is given after a build derived another one. -/
theorem format_of_history_given :
    let steps : List Step := [.output "a.json", .build, .exportType "text"]
    ∃ settled, (after steps).build = .ok settled ∧ settled.format = .listing ∧
      some settled.format = formatOfChoices? steps := by
  intro steps
  have inForce : (after steps).exportInForce? = some "text" := by
    rw [exportInForce?_after]
    rfl
  have chosen : Format.chosen? (after steps).dump (after steps).exportInForce? = some .listing := by
    rw [inForce, (recalls_after steps).dump]
    rfl
  have built := build_eq_ok.mpr ⟨_, chosen, rfl⟩
  have given : lastExport? steps ≠ none := by
    show some "text" ≠ none
    simp
  exact ⟨_, built, rfl, (format_of_history built).2.mpr (Or.inr (Or.inl given))⟩

/-- An output that goes with JSON is chosen and built, and then one that goes with a listing: the
second build is for JSON, too. -/
theorem earlier_output_decides_format :
    let steps : List Step := [.output "a.json", .build, .output "b.erl"]
    ∃ settled, (after steps).build = .ok settled ∧ settled.output = some "b.erl" ∧
      settled.format = .json ∧ formatOfChoices? steps = some .listing := by
  intro steps
  have json : exportOfPath? "a.json" = some "json" := by
    simp +decide [exportOfPath?, extension?, pathParts, String.splitOn, String.splitOnAux]
  have listing : exportOfPath? "b.erl" = some "pretty" := by
    simp +decide [exportOfPath?, extension?, pathParts, String.splitOn, String.splitOnAux]
  have derived : firstDerived? steps = some "json" :=
    calc
      firstDerived? steps = firstDerived? ([Step.output "a.json"] ++ [Step.build]) :=
        firstDerived?_of_ne (s := .output "b.erl") [.output "a.json", .build] (by simp)
      _ = (firstDerived? [.output "a.json"]).or (exportOfOutput? [.output "a.json"]) :=
        firstDerived?_build _
      _ = some "json" := json
  have inForce : (after steps).exportInForce? = some "json" := by
    rw [exportInForce?_after, derived]
    rfl
  have chosen : Format.chosen? (after steps).dump (after steps).exportInForce? = some .json := by
    rw [inForce, (recalls_after steps).dump]
    rfl
  have last : exportOfOutput? steps = some "pretty" := listing
  refine ⟨_, build_eq_ok.mpr ⟨_, chosen, rfl⟩, (recalls_after steps).output, rfl, ?_⟩
  rw [formatOfChoices?, last]
  rfl

end Unsugar
