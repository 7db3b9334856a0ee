import Unsugar.Report.Sources
import Unsugar.Proofs.Text.Lines
import Unsugar.Proofs.Interchange.Culprit

/-!
# Labels of text errors

A text that is no JSON is reported with a line and a column, and the label is put where these lead in
the source that the diagnostic is for. In the source that was read they lead to the byte in front of
the one that the reader stopped at, or to the start of its line. In another source they lead
somewhere on the line of that number, if there is one.

Main statement: `labels_of_text_errors`.
-/

namespace Unsugar

/-! ## Where text errors are reported -/

/-- Forms are refused with paths, so an error of the text comes from the reader of the text. -/
theorem Form.listOfText_eq_error {text : String} {e : Json.TextError}
    (h : Form.listOfText text = .error (.text e)) : Json.parse text = .error e := by
  unfold Form.listOfText at h
  split at h
  · next v _ =>
      obtain ⟨p, w, path, -⟩ :=
        (Node.standsIn_root v).items (fun _ there => there.form) (.text e) h
      cases path
  · next e' failed =>
      cases h
      exact failed

/-- Text is refused at the place of an offset in it. -/
theorem Json.position_of_parse {text : String} {e : Json.TextError}
    (h : Json.parse text = .error e) :
    ∃ offset ≤ text.utf8ByteSize, e.position = Text.position text offset := by
  unfold Json.parse at h
  split at h
  · cases h
  · cases h
    exact ⟨_, Nat.sub_le _ _, rfl⟩

namespace Sources

variable {sources : Sources} {id : Nat} {source : Source} {e : Json.TextError}

theorem forms_of_registered (registered : sources[id]? = some source) :
    sources.forms id = (Form.listOfText source.text).mapError .read := by
  unfold forms
  rw [registered]

theorem position_of_forms (registered : sources[id]? = some source)
    (h : sources.forms id = .error (.read (.text e))) :
    ∃ offset ≤ source.text.utf8ByteSize, e.position = Text.position source.text offset := by
  rw [forms_of_registered registered] at h
  cases read : Form.listOfText source.text with
  | ok fs =>
      rw [read] at h
      cases h
  | error e' =>
      rw [read] at h
      cases h
      exact Json.position_of_parse (Form.listOfText_eq_error read)

/-! ## Where labels are put -/

theorem offset?_of_range (registered : sources[id]? = some source) {position : Text.Position}
    (numbered : position.line ≠ 0) {start stop : Nat}
    (range : Text.lineRange? source.text (position.line - 1) = some (start, stop)) :
    sources.offset? id position = some (min (start + (position.column - 1)) stop) := by
  unfold offset?
  rw [registered, Option.bind_eq_bind, Option.bind_some, if_neg numbered, range]
  rfl

theorem offset?_of_no_line (registered : sources[id]? = some source) {position : Text.Position}
    (range : Text.lineRange? source.text (position.line - 1) = none) :
    sources.offset? id position = none := by
  unfold offset?
  rw [registered, Option.bind_eq_bind, Option.bind_some, range]
  simp

/-- The labels of a text error: one at its offset, if the place of the error has one. -/
theorem labels_diagnostic (sources : Sources) (id : Nat) (e : Json.TextError) :
    (sources.diagnostic (some id) (.read (.text e))).labels =
      ((sources.offset? id e.position).map fun p => ⟨id, p, p, "here"⟩).toList := by
  unfold diagnostic
  simp only
  cases sources.offset? id e.position <;> rfl

/-- In the source that was read the label is in front of the offset that the reader stopped at, and
on the same line. -/
theorem labels_at_home (registered : sources[id]? = some source) {offset : Nat}
    (inText : offset ≤ source.text.utf8ByteSize)
    (place : e.position = Text.position source.text offset) :
    ∃ start, Text.lineStart? source.text (e.position.line - 1) = some start ∧
      let p := start + (e.position.column - 1)
      (sources.diagnostic (some id) (.read (.text e))).labels = [⟨id, p, p, "here"⟩] ∧
        p ≤ source.text.utf8ByteSize ∧ Text.lineFeedsBefore source.text p + 1 = e.position.line := by
  obtain ⟨start, stop, range, begun, before, column, sameLine⟩ :=
    Text.exists_lineRange?_position source.text inText
  rw [← place] at range column sameLine
  have numbered : e.position.line ≠ 0 := by
    rw [place]
    exact Nat.succ_ne_zero _
  -- One byte less than the offset, or the start of the line if that is where the reader stopped.
  have reached : start + (e.position.column - 1) ≤ offset := by omega
  refine ⟨start, (Text.lineRange?_eq_some.mp range).1, ?_, Nat.le_trans reached inText,
    sameLine _ (Nat.le_add_right _ _) reached⟩
  rw [labels_diagnostic, offset?_of_range registered numbered range,
    Nat.min_eq_left (Nat.le_trans reached before)]
  rfl

/-- In any source the label is on the line of the reported number, if there is such a line. -/
theorem labels_abroad (registered : sources[id]? = some source)
    (numbered : e.position.line ≠ 0) :
    let labels := (sources.diagnostic (some id) (.read (.text e))).labels
    (labels ≠ [] ↔ e.position.line ≤ source.text.toList.count '\n' + 1) ∧
      (labels ≠ [] → ∃ p start stop, labels = [⟨id, p, p, "here"⟩] ∧
        Text.lineRange? source.text (e.position.line - 1) = some (start, stop) ∧
        start ≤ p ∧ p ≤ stop) := by
  intro labels
  have labels_eq : labels = _ := labels_diagnostic sources id e
  cases range : Text.lineRange? source.text (e.position.line - 1) with
  | none =>
      have noLine := Text.lineRange?_eq_none.mp range
      rw [labels_eq, offset?_of_no_line registered range]
      refine ⟨?_, by simp⟩
      simp only [Option.map_none, Option.toList_none, ne_eq, not_true_eq_false, false_iff]
      omega
  | some bounds =>
      obtain ⟨start, stop⟩ := bounds
      have line := Text.lineRange?_eq_none.not.mp (by rw [range]; simp)
      have increasing := Text.start_le_stop_of_lineRange? range
      rw [labels_eq, offset?_of_range registered numbered range]
      refine ⟨?_, ?_⟩
      · simp only [Option.map_some, Option.toList_some, ne_eq, List.cons_ne_nil, not_false_eq_true,
          true_iff]
        omega
      · rintro -
        exact ⟨_, start, stop, rfl, rfl, by omega, Nat.min_le_right _ _⟩

end Sources

/-- A text error is labelled at its own place. In the source that was read it has one label, an empty
one in the text: as many bytes behind the start of the reported line as the column says, of which
column 0 counts as 1, and still on that line, as the line feeds before it show. In any source there
is a label exactly if there are as many lines as reported, and then it is on that line, at most at
the start of the next one. -/
theorem labels_of_text_errors {sources : Sources} {id : Nat} {source : Source}
    {e : Json.TextError} (registered : sources[id]? = some source)
    (rejected : sources.forms id = .error (.read (.text e))) :
    (∃ start, Text.lineStart? source.text (e.position.line - 1) = some start ∧
      let p := start + (e.position.column - 1)
      (sources.diagnostic (some id) (.read (.text e))).labels = [⟨id, p, p, "here"⟩] ∧
        p ≤ source.text.utf8ByteSize ∧
        Text.lineFeedsBefore source.text p + 1 = e.position.line) ∧
    ∀ id' other, sources[id']? = some other →
      let labels := (sources.diagnostic (some id') (.read (.text e))).labels
      (labels ≠ [] ↔ e.position.line ≤ other.text.toList.count '\n' + 1) ∧
        (labels ≠ [] → ∃ p start stop, labels = [⟨id', p, p, "here"⟩] ∧
          Text.lineRange? other.text (e.position.line - 1) = some (start, stop) ∧
          start ≤ p ∧ p ≤ stop) := by
  obtain ⟨offset, inText, place⟩ := Sources.position_of_forms registered rejected
  have numbered : e.position.line ≠ 0 := by
    rw [place]
    exact Nat.succ_ne_zero _
  refine ⟨Sources.labels_at_home registered inText place, ?_⟩
  intro id' other registered'
  exact Sources.labels_abroad registered' numbered

/-- A list that is not closed before its text ends, behind a line feed: column 0 of a line that a
source of one line does not have. -/
theorem labels_of_text_errors_last_line :
    let sources : Sources := [⟨"open.json", "[\n"⟩, ⟨"unit.json", "[]"⟩]
    let e : Json.TextError := ⟨.eofInList, ⟨2, 0⟩⟩
    sources.forms 0 = .error (.read (.text e)) ∧
      (sources.diagnostic (some 0) (.read (.text e))).labels = [⟨0, 2, 2, "here"⟩] ∧
      (sources.diagnostic (some 1) (.read (.text e))).labels = [] := by
  intro sources e
  have refused : Json.parse "[\n" = .error e := rfl
  have rejected : sources.forms 0 = .error (.read (.text e)) := by
    show (Form.listOfText "[\n").mapError RunFailure.read = _
    rw [Form.listOfText, refused]
    rfl
  obtain ⟨⟨start, first, label, -⟩, abroad⟩ := labels_of_text_errors rfl rejected
  cases (show Text.lineStart? "[\n" 1 = some 2 by decide +kernel).symm.trans first
  refine ⟨rejected, label, ?_⟩
  by_contra labelled
  have := (abroad 1 _ rfl).1.mp labelled
  revert this
  decide +kernel

end Unsugar
