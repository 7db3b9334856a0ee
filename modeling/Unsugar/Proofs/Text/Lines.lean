import Unsugar.Text.Lines
import Mathlib.Data.List.Count
import Mathlib.Data.String.Basic

/-!
# Lines and their line feeds

The starts of the lines of a text increase, so an offset cuts them in two: those at or before it and
those behind it (`le_iff_lt_countP`). How many lie before it is a matter of line feeds alone, and so
is the line that an offset is on (`lineIndex_eq`). The place of an offset leads back to a stretch of
its line, on which every offset has the same line (`exists_lineRange?_position`).
-/

namespace Unsugar.Text

/-- The number of line feeds before an offset. -/
def lineFeedsBefore (s : String) (offset : Nat) : Nat := (slice 0 offset 0 s.toList).count '\n'

theorem byteLength_toList (s : String) : byteLength s.toList = s.utf8ByteSize := by
  have ofList (cs : List Char) : byteLength cs = (String.ofList cs).utf8ByteSize := by
    induction cs with
    | nil => rfl
    | cons c cs ih =>
        have split : String.ofList (c :: cs) = String.singleton c ++ String.ofList cs := by
          rw [String.singleton_eq_ofList, ← String.ofList_append]
          rfl
        rw [byteLength, ih, split, String.utf8ByteSize_append, String.utf8ByteSize_singleton]
  rw [ofList, String.ofList_toList]

/-! ## Increasing offsets -/

section Increasing

variable {offsets : List Nat}

/-- None is at or before a limit if even one before them all is behind it. -/
theorem countP_le_eq_zero {x limit : Nat} (least : ∀ y ∈ offsets, x < y) (behind : ¬x ≤ limit) :
    offsets.countP (· ≤ limit) = 0 := by
  rw [List.countP_eq_zero]
  intro y hy
  have := least y hy
  simp only [decide_eq_true_eq]
  omega

/-- Those at or before a limit stand in front. -/
theorem length_takeWhile_le (increasing : offsets.Pairwise (· < ·)) (limit : Nat) :
    (offsets.takeWhile (· ≤ limit)).length = offsets.countP (· ≤ limit) := by
  induction offsets with
  | nil => rfl
  | cons x xs ih =>
      obtain ⟨least, increasing⟩ := List.pairwise_cons.mp increasing
      by_cases le : x ≤ limit
      · simp [le, ih increasing]
      · have none : xs.countP (· ≤ limit) = 0 := countP_le_eq_zero least le
        simp [le, none]

theorem le_iff_lt_countP (increasing : offsets.Pairwise (· < ·)) {k start : Nat}
    (h : offsets[k]? = some start) (limit : Nat) :
    start ≤ limit ↔ k < offsets.countP (· ≤ limit) := by
  induction offsets generalizing k with
  | nil => simp at h
  | cons x xs ih =>
      obtain ⟨least, increasing⟩ := List.pairwise_cons.mp increasing
      by_cases le : x ≤ limit
      · cases k with
        | zero =>
            cases h
            simp [le]
        | succ k => simp [le, ih increasing h]
      · have none : xs.countP (· ≤ limit) = 0 := countP_le_eq_zero least le
        have later : ¬start ≤ limit := by
          cases k with
          | zero =>
              cases h
              exact le
          | succ k => simpa [none] using ih increasing h
        simp [le, none, later]

end Increasing

/-! ## The starts of lines -/

section Starts

variable (offset : Nat) (cs : List Char)

theorem laterLineStarts_bounds : ∀ start ∈ laterLineStarts offset cs,
    offset < start ∧ start ≤ offset + byteLength cs := by
  induction cs generalizing offset with
  | nil => simp [laterLineStarts]
  | cons c cs ih =>
      intro start h
      have size := c.utf8Size_pos
      have later (h : start ∈ laterLineStarts (offset + c.utf8Size) cs) :
          offset < start ∧ start ≤ offset + byteLength (c :: cs) := by
        have := ih _ start h
        simp only [byteLength]
        omega
      unfold laterLineStarts at h
      simp only at h
      split at h
      · rcases List.mem_cons.mp h with rfl | h
        · simp only [byteLength]
          omega
        · exact later h
      · exact later h

theorem increasing_laterLineStarts : (laterLineStarts offset cs).Pairwise (· < ·) := by
  induction cs generalizing offset with
  | nil => exact .nil
  | cons c cs ih =>
      unfold laterLineStarts
      simp only
      split
      · exact .cons (fun start h => (laterLineStarts_bounds _ cs start h).1) (ih _)
      · exact ih _

theorem length_laterLineStarts : (laterLineStarts offset cs).length = cs.count '\n' := by
  induction cs generalizing offset with
  | nil => rfl
  | cons c cs ih =>
      unfold laterLineStarts
      by_cases feed : c = '\n' <;> simp [feed, ih]

/-- A line starts at or before a limit if the line feed in front of it is before the limit. -/
theorem countP_laterLineStarts (limit : Nat) :
    (laterLineStarts offset cs).countP (· ≤ limit) = (slice 0 limit offset cs).count '\n' := by
  induction cs generalizing offset with
  | nil => rfl
  | cons c cs ih =>
      unfold laterLineStarts slice
      specialize ih (offset + c.utf8Size)
      generalize offset + c.utf8Size = next at ih ⊢
      by_cases feed : c = '\n' <;> by_cases le : next ≤ limit <;> simp [feed, le, ih]

end Starts

variable {s : String}

theorem increasing_lineStarts (s : String) : (lineStarts s).Pairwise (· < ·) :=
  .cons (fun start h => Nat.lt_of_le_of_lt (Nat.zero_le 0) (laterLineStarts_bounds 0 _ start h).1)
    (increasing_laterLineStarts 0 _)

theorem countP_lineStarts (s : String) (offset : Nat) :
    (lineStarts s).countP (· ≤ offset) = lineFeedsBefore s offset + 1 := by
  rw [lineStarts, List.countP_cons_of_pos (by simp), countP_laterLineStarts, lineFeedsBefore]

/-- An offset is on the line of which the number is the number of line feeds before it. -/
theorem lineIndex_eq (s : String) (offset : Nat) : lineIndex s offset = lineFeedsBefore s offset := by
  rw [lineIndex, length_takeWhile_le (increasing_lineStarts s), countP_lineStarts]
  rfl

/-- A line has started by an offset if there are as many line feeds before the offset. -/
theorem lineStart?_le_iff {k start : Nat} (h : lineStart? s k = some start) (offset : Nat) :
    start ≤ offset ↔ k ≤ lineFeedsBefore s offset := by
  rw [le_iff_lt_countP (increasing_lineStarts s) h, countP_lineStarts, Nat.lt_succ_iff]

theorem length_lineStarts (s : String) : (lineStarts s).length = s.toList.count '\n' + 1 := by
  rw [lineStarts, List.length_cons, length_laterLineStarts]

theorem lineStart?_eq_none {k : Nat} : lineStart? s k = none ↔ s.toList.count '\n' < k := by
  rw [lineStart?, List.getElem?_eq_none_iff, length_lineStarts]
  exact Nat.succ_le_iff

/-- The line of an offset is one of the lines. -/
theorem lineFeedsBefore_le (s : String) (offset : Nat) :
    lineFeedsBefore s offset ≤ s.toList.count '\n' := by
  have fewer := List.countP_le_length (p := (· ≤ offset)) (l := lineStarts s)
  rw [countP_lineStarts, length_lineStarts] at fewer
  exact Nat.le_of_succ_le_succ fewer

theorem lineStart?_le_utf8ByteSize {k start : Nat} (h : lineStart? s k = some start) :
    start ≤ s.utf8ByteSize := by
  rcases List.mem_cons.mp (List.mem_of_getElem? h) with rfl | later
  · exact Nat.zero_le _
  · have := (laterLineStarts_bounds 0 _ start later).2
    rw [byteLength_toList] at this
    omega

theorem lineFeedsBefore_mono {offset offset' : Nat} (h : offset ≤ offset') :
    lineFeedsBefore s offset ≤ lineFeedsBefore s offset' := by
  have fewer : (lineStarts s).countP (· ≤ offset) ≤ (lineStarts s).countP (· ≤ offset') := by
    apply List.countP_mono_left
    intro start _ le
    simp only [decide_eq_true_eq] at le ⊢
    exact Nat.le_trans le h
  rw [countP_lineStarts, countP_lineStarts] at fewer
  exact Nat.le_of_succ_le_succ fewer

/-! ## Ranges of lines -/

theorem lineRange?_eq_some {k start stop : Nat} :
    lineRange? s k = some (start, stop) ↔ lineStart? s k = some start ∧
      stop = (lineStart? s (k + 1)).getD s.utf8ByteSize := by
  rw [lineRange?, Option.map_eq_some_iff]
  constructor
  · rintro ⟨start, h, ⟨⟩⟩
    exact ⟨h, rfl⟩
  · rintro ⟨h, rfl⟩
    exact ⟨start, h, rfl⟩

theorem lineRange?_eq_none {k : Nat} : lineRange? s k = none ↔ s.toList.count '\n' < k := by
  rw [lineRange?, Option.map_eq_none_iff, lineStart?_eq_none]

/-- An offset before the next line, if there is one, and in the text lies before the end of the
range. -/
theorem le_stop_of_lineRange? {k start stop offset : Nat} (h : lineRange? s k = some (start, stop))
    (before : lineFeedsBefore s offset ≤ k) (inText : offset ≤ s.utf8ByteSize) : offset ≤ stop := by
  obtain ⟨-, rfl⟩ := lineRange?_eq_some.mp h
  cases next : lineStart? s (k + 1) with
  | none => exact inText
  | some stop =>
      have := lineStart?_le_iff next offset
      simp only [Option.getD_some]
      omega

theorem start_le_stop_of_lineRange? {k start stop : Nat}
    (h : lineRange? s k = some (start, stop)) : start ≤ stop := by
  obtain ⟨first, rfl⟩ := lineRange?_eq_some.mp h
  cases next : lineStart? s (k + 1) with
  | none => exact lineStart?_le_utf8ByteSize first
  | some stop =>
      obtain ⟨hk, rfl⟩ := List.getElem?_eq_some_iff.mp first
      obtain ⟨hk', rfl⟩ := List.getElem?_eq_some_iff.mp next
      exact Nat.le_of_lt
        (List.pairwise_iff_getElem.mp (increasing_lineStarts s) k (k + 1) hk hk' (Nat.lt_succ_self k))

/-- The place of an offset leads back to its line: to a start at or before the offset, with no line
feed between the two. -/
theorem exists_lineRange?_position (s : String) {offset : Nat} (inText : offset ≤ s.utf8ByteSize) :
    ∃ start stop, lineRange? s ((position s offset).line - 1) = some (start, stop) ∧
      start ≤ offset ∧ offset ≤ stop ∧ (position s offset).column = offset - start ∧
      ∀ p, start ≤ p → p ≤ offset → lineFeedsBefore s p + 1 = (position s offset).line := by
  obtain ⟨start, first⟩ := Option.ne_none_iff_exists'.mp
    (lineStart?_eq_none.not.mpr (Nat.not_lt_of_le (lineFeedsBefore_le s offset)))
  have place : position s offset = ⟨lineFeedsBefore s offset + 1, offset - start⟩ := by
    rw [position, lineIndex_eq, first]
    rfl
  have range := lineRange?_eq_some.mpr ⟨first, rfl⟩
  rw [place]
  refine ⟨start, _, range, (lineStart?_le_iff first offset).mpr (Nat.le_refl _),
    le_stop_of_lineRange? range (Nat.le_refl _) inText, rfl, ?_⟩
  intro p low high
  have := (lineStart?_le_iff first p).mp low
  have := lineFeedsBefore_mono (s := s) high
  simp only
  omega

end Unsugar.Text
