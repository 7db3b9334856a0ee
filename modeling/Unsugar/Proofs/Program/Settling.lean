import Unsugar.Program.Options
import Mathlib.Data.Option.Basic

/-!
# Settled options

Settling fills in the export type that goes with the output before it looks at what the export type
names, so it may have changed the options by the time it fails. It never has: an export type that
goes with an output names a format, and only a name that the user gave can be wrong
(`Options.settle_cases`).

Main statement: settling fails exactly for a wrong name and then leaves the options as they were, and
settled options are settled already (`settling_atomic`).
-/

namespace Unsugar

/-! ## What a choice comes to -/

namespace Format

/-- The names of formats. -/
def names : List String := ["json", "pretty", "text", "erl"]

theorem ofName?_eq_none {name : String} : ofName? name = none ↔ name ∉ names := by
  unfold ofName? names
  split <;> simp_all

/-- The format that a dump or an export type asks for; none if the type is no name of a format. -/
def chosen? (dump : Bool) (exportType : Option String) : Option Format :=
  if dump then some listing
  else
    match exportType with
    | none => some json
    | some name => ofName? name

theorem chosen?_dump (exportType : Option String) : chosen? true exportType = some listing := rfl

theorem chosen?_none : chosen? false none = some json := rfl

theorem chosen?_some (name : String) : chosen? false (some name) = ofName? name := rfl

end Format

namespace Options

variable {o settled : Options}

theorem mem_names_of_exportOfPath? {path name : String} (h : exportOfPath? path = some name) :
    name ∈ Format.names := by
  unfold exportOfPath? at h
  split at h
  all_goals cases h
  all_goals simp [Format.names]

/-- The export type that was given, or else the one that goes with the output. -/
def exportInForce? (o : Options) : Option String := o.exportType.or (o.output.bind exportOfPath?)

theorem withDerivedExport_eq (o : Options) :
    o.withDerivedExport = { o with exportType := o.exportInForce? } := by
  unfold withDerivedExport exportInForce?
  obtain ⟨-, -, -, -, -, -, -, output, exportType, -⟩ := o
  cases exportType <;> cases output <;> rfl

/-! ## Settling -/

/-- Options that ask for a format are settled on it. -/
theorem settle_of_chosen {format : Format}
    (h : Format.chosen? o.dump o.exportInForce? = some format) :
    o.settle = ({ o with exportType := o.exportInForce?, format }, none) := by
  unfold settle
  rw [withDerivedExport_eq]
  cases dump : o.dump with
  | true =>
      rw [dump, Format.chosen?_dump] at h
      cases h
      rfl
  | false =>
      rw [dump] at h
      cases inForce : o.exportInForce? with
      | none =>
          rw [inForce, Format.chosen?_none] at h
          cases h
          rfl
      | some name =>
          rw [inForce, Format.chosen?_some] at h
          simp [h]

/-- A wrong name is in the way of settling, and nothing is changed for it. -/
theorem settle_of_unknown {name : String} (dump : o.dump = false)
    (given : o.exportType = some name) (unknown : name ∉ Format.names) :
    o.settle = (o, some (.unknownFormat name)) := by
  have kept : o.withDerivedExport = o := by
    unfold withDerivedExport
    rw [given]
  unfold settle
  simp [kept, dump, given, Format.ofName?_eq_none.mpr unknown]

/-- All that settling can come to. A name that is in force and is none of a format was given, since
the one that goes with an output is always known. -/
theorem settle_cases (o : Options) :
    (∃ format, Format.chosen? o.dump o.exportInForce? = some format ∧
      o.settle = ({ o with exportType := o.exportInForce?, format }, none)) ∨
    ∃ name, o.dump = false ∧ o.exportType = some name ∧ name ∉ Format.names ∧
      o.settle = (o, some (.unknownFormat name)) := by
  cases chosen : Format.chosen? o.dump o.exportInForce? with
  | some format => exact Or.inl ⟨format, rfl, settle_of_chosen chosen⟩
  | none =>
      cases dump : o.dump with
      | true =>
          rw [dump, Format.chosen?_dump] at chosen
          cases chosen
      | false =>
          rw [dump] at chosen
          cases inForce : o.exportInForce? with
          | none =>
              rw [inForce, Format.chosen?_none] at chosen
              cases chosen
          | some name =>
              rw [inForce, Format.chosen?_some, Format.ofName?_eq_none] at chosen
              rcases Option.or_eq_some_iff.mp inForce with given | ⟨-, derived⟩
              · exact Or.inr ⟨name, rfl, given, chosen, settle_of_unknown dump given chosen⟩
              · obtain ⟨path, -, known⟩ := Option.bind_eq_some_iff.mp derived
                exact absurd (mem_names_of_exportOfPath? known) chosen

/-- What was settled asks for the format it was settled on. -/
theorem settle_settled {format : Format}
    (h : Format.chosen? o.dump o.exportInForce? = some format) :
    let settled := { o with exportType := o.exportInForce?, format }
    settled.settle = (settled, none) := by
  intro settled
  have inForce : settled.exportInForce? = o.exportInForce? := by
    show o.exportInForce?.or (o.output.bind exportOfPath?) = o.exportInForce?
    rw [exportInForce?, Option.or_assoc, Option.or_self]
  have again := settle_of_chosen (o := settled) (inForce ▸ h)
  rw [inForce] at again
  exact again

end Options

/-- Settling options is all or nothing. It fails exactly if no dump is asked for and the export type
that was given is no name of a format, and then every option is as it was. Otherwise the export type
and the format alone may have changed, an export type that was given is kept, and settling again
changes nothing. -/
theorem settling_atomic (o : Options) :
    ((∃ e, o.settle.2 = some e) ↔
      o.dump = false ∧ ∃ name, o.exportType = some name ∧ name ∉ Format.names) ∧
    (∀ e, o.settle.2 = some e → o.settle.1 = o ∧
      ∃ name, o.exportType = some name ∧ e = .unknownFormat name) ∧
    (o.settle.2 = none →
      (∃ exportType format, o.settle.1 = { o with exportType, format }) ∧
      (∀ name, o.exportType = some name → o.settle.1.exportType = some name) ∧
      o.settle.1.settle = (o.settle.1, none)) := by
  rcases Options.settle_cases o with ⟨format, chosen, done⟩ | ⟨name, dump, given, unknown, refused⟩
  · rw [done]
    refine ⟨?_, by simp, ?_⟩
    · constructor
      · rintro ⟨e, ⟨⟩⟩
      · rintro ⟨dump, name, given, unknown⟩
        rw [Options.settle_of_unknown dump given unknown] at done
        simp at done
    · rintro -
      refine ⟨⟨_, _, rfl⟩, ?_, Options.settle_settled chosen⟩
      intro name given
      simp [Options.exportInForce?, given]
  · rw [refused]
    refine ⟨?_, ?_, by simp⟩
    · exact iff_of_true ⟨_, rfl⟩ ⟨dump, name, given, unknown⟩
    · rintro e ⟨⟩
      exact ⟨rfl, name, given, rfl⟩

/-- A name that is none of a format, beside an output that would go with one, and an output whose
export type is filled in. -/
theorem settling_atomic_output :
    let refused : Options :=
      { Options.default with output := some "a.json", exportType := some "yaml" }
    let derived : Options := { Options.default with output := some "b.erl" }
    (refused.settle.2 = some (.unknownFormat "yaml") ∧ refused.settle.1 = refused) ∧
      derived.settle.2 = none ∧ derived.settle.1.exportType = some "pretty" ∧
      derived.settle.1.settle = (derived.settle.1, none) := by
  intro refused derived
  have fails : refused.settle = (refused, some (.unknownFormat "yaml")) :=
    Options.settle_of_unknown rfl rfl (by simp [Format.names])
  have inForce : derived.exportInForce? = some "pretty" := by
    show Options.exportOfPath? "b.erl" = some "pretty"
    simp +decide [Options.exportOfPath?, Options.extension?, Options.pathParts, String.splitOn,
      String.splitOnAux]
  have chosen : Format.chosen? derived.dump derived.exportInForce? = some .listing := by
    rw [inForce]
    rfl
  have succeeds := Options.settle_of_chosen chosen
  obtain ⟨-, unchanged, -⟩ := settling_atomic refused
  obtain ⟨-, -, settled⟩ := settling_atomic derived
  refine ⟨⟨congrArg Prod.snd fails, ?_⟩, congrArg Prod.snd succeeds, ?_, ?_⟩
  · exact (unchanged _ (congrArg Prod.snd fails)).1
  · rw [succeeds]
    exact inForce
  · exact (settled (congrArg Prod.snd succeeds)).2.2

end Unsugar
