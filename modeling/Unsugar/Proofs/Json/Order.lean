import Unsugar.Proofs.Json.Text

/-!
# The order of objects read from a text

An object stands in lists of values and in the members of other objects, so that the type of values
cannot hold a proof that its keys ascend. It is an invariant of reading instead: an object is made
of its members by insertion, whatever order they have in the text, and numbers, strings and words
are no objects.

Main statement: every value that a text denotes is in key order (`isSorted_of_parse`).
-/

namespace Unsugar.Json

/-! ## Numbers -/

/-- An integer or a double. -/
def IsNumber (v : Json) : Prop := (∃ n, v = .int n) ∨ ∃ x, v = .float x

section Numbers

variable {negative : Bool} {n : Significant} {cs rest : List Char} {v : Json}

theorem isNumber_floatOf (h : floatOf negative n cs = .ok (v, rest)) : v.IsNumber := by
  unfold floatOf at h
  split at h <;> cases h
  exact .inr ⟨_, rfl⟩

theorem isNumber_exponentPart (h : exponentPart negative n cs = .ok (v, rest)) : v.IsNumber := by
  unfold exponentPart at h
  repeat' split at h
  all_goals first
    | contradiction
    | exact isNumber_floatOf h
    | (obtain ⟨rfl, -⟩ := Prod.mk.inj (Except.ok.inj h); exact .inr ⟨_, rfl⟩)

theorem isNumber_exponentOrEnd (h : exponentOrEnd negative n cs = .ok (v, rest)) :
    v.IsNumber := by
  unfold exponentOrEnd at h
  split at h
  · exact isNumber_exponentPart h
  · exact isNumber_exponentPart h
  · exact isNumber_floatOf h

theorem isNumber_fractionPart (h : fractionPart negative n cs = .ok (v, rest)) : v.IsNumber := by
  unfold fractionPart at h
  dsimp only at h
  split at h
  · split at h
    · exact isNumber_exponentOrEnd h
    · split at h
      · cases h
      · exact isNumber_exponentOrEnd h
  · split at h
    · cases h
    · exact isNumber_exponentOrEnd h

theorem isNumber_integer (negative : Bool) (significand : Nat) :
    (integer negative significand).IsNumber := by
  cases negative <;>
    simp only [integer, IsNumber, Bool.false_eq_true, if_true, if_false] <;>
    split <;> simp

theorem isNumber_afterInteger {significand : Nat}
    (h : afterInteger negative significand cs = .ok (v, rest)) : v.IsNumber := by
  unfold afterInteger at h
  split at h
  · exact isNumber_fractionPart h
  · exact isNumber_exponentPart h
  · exact isNumber_exponentPart h
  · cases h
    exact isNumber_integer _ _

theorem isNumber_afterDigits {significand : Nat}
    (h : afterDigits negative significand cs = .ok (v, rest)) : v.IsNumber := by
  unfold afterDigits at h
  split at h
  · exact isNumber_afterInteger h
  · exact isNumber_fractionPart h
  · exact isNumber_exponentOrEnd h

theorem isNumber_unsignedNumber (h : unsignedNumber negative cs = .ok (v, rest)) :
    v.IsNumber := by
  unfold unsignedNumber at h
  split at h
  · cases h
  · split at h
    · split at h
      · split at h
        · cases h
        · exact isNumber_afterInteger h
      · exact isNumber_afterInteger h
    · split at h
      · exact isNumber_afterDigits h
      · cases h

end Numbers

/-! ## What readers yield -/

/-- Whatever the reader takes from the front of a text has the property. -/
def Yields {α : Type} (read : Reader α) (p : α → Prop) : Prop :=
  ∀ (cs : List Char) (s : Step α cs), read cs = .ok s → p s.value

theorem yields_number : Yields number IsNumber := by
  intro cs s read
  unfold number at read
  split at read
  all_goals
    split at read <;> cases read
    next h => exact isNumber_unsignedNumber h

/-- What a sequence took is its first element and, unless it is the last, what a sequence took
further on. -/
def Runs {α : Type} (element : Reader α) (seq : Reader (List α)) : Prop :=
  ∀ (cs : List Char) (s : Step (List α) cs), seq cs = .ok s →
    ∃ first, element cs = .ok first ∧
      (s.value = [first.value] ∨ ∃ (rest : List Char) (later : Step (List α) rest),
        rest.length < cs.length ∧ seq rest = .ok later ∧
          s.value = first.value :: later.value)

theorem runs_itemsFrom (item : Reader Json) : Runs item (itemsFrom item) := by
  intro cs s read
  rw [itemsFrom] at read
  obtain ⟨first, element, read⟩ := Except.bind_eq_ok.mp read
  refine ⟨first, element, ?_⟩
  dsimp only at read
  split at read
  · cases read
  · cases read
    exact .inl rfl
  · split at read
    · cases read
    · cases read
    · next rest' hb _ _ _ =>
        obtain ⟨later, run, read⟩ := Except.bind_eq_ok.mp read
        cases read
        exact .inr ⟨rest', later, Nat.lt_trans (length_lt_of_skipBlanks hb) first.shorter, run, rfl⟩
  · cases read

theorem runs_membersFrom (item : Reader Json) : Runs (member item) (membersFrom item) := by
  intro cs s read
  rw [membersFrom] at read
  obtain ⟨first, element, read⟩ := Except.bind_eq_ok.mp read
  refine ⟨first, element, ?_⟩
  dsimp only at read
  split at read
  · cases read
  · cases read
    exact .inl rfl
  · split at read
    · cases read
    · cases read
    · next rest' hb _ _ _ =>
        obtain ⟨later, run, read⟩ := Except.bind_eq_ok.mp read
        cases read
        exact .inr ⟨rest', later, Nat.lt_trans (length_lt_of_skipBlanks hb) first.shorter, run, rfl⟩
  · cases read

section Brackets

variable {α : Type} {element : Reader α} {seq : Reader (List α)} {item : Reader Json}

theorem Runs.yields (runs : Runs element seq) {p : α → Prop} (h : Yields element p) :
    Yields seq fun as => ∀ a ∈ as, p a := by
  intro cs s read
  induction hn : cs.length using Nat.strong_induction_on generalizing cs s with
  | _ n ih =>
      subst hn
      obtain ⟨first, taken, last | ⟨rest, later, shorter, run, more⟩⟩ := runs _ _ read
      · rw [last]
        exact List.forall_mem_singleton.mpr (h _ _ taken)
      · rw [more]
        exact List.forall_mem_cons.mpr ⟨h _ _ taken, ih _ shorter _ _ run rfl⟩

theorem yields_member {p : Json → Prop} (h : Yields item p) :
    Yields (member item) fun m => p m.2 := by
  intro cs s read
  unfold member at read
  obtain ⟨key, -, read⟩ := Except.bind_eq_ok.mp read
  dsimp only at read
  split at read
  · cases read
  · obtain ⟨value, taken, read⟩ := Except.bind_eq_ok.mp read
    cases read
    exact h _ _ taken
  · cases read

theorem yields_listOf (h : Yields item IsSorted) : Yields (listOf item) IsSorted := by
  intro cs s read
  unfold listOf at read
  split at read
  · cases read
  · split at read
    · cases read
    · cases read
      exact everywhere_arr.mpr ⟨trivial, by simp⟩
    · obtain ⟨items, taken, read⟩ := Except.bind_eq_ok.mp read
      cases read
      exact everywhere_arr.mpr ⟨trivial, (runs_itemsFrom item).yields h _ _ taken⟩

/-- An object keeps some of the members read, and puts them in order. -/
theorem yields_objectOf (h : Yields item IsSorted) : Yields (objectOf item) IsSorted := by
  intro cs s read
  unfold objectOf at read
  split at read
  · cases read
  · split at read
    · cases read
    · cases read
      exact everywhere_obj.mpr ⟨List.Pairwise.nil, by simp⟩
    · obtain ⟨members, taken, read⟩ := Except.bind_eq_ok.mp read
      cases read
      refine everywhere_obj.mpr ⟨Assoc.sorted_ofList _, fun m hm => ?_⟩
      exact (runs_membersFrom item).yields (yields_member h) _ _ taken m
        (Assoc.mem_of_mem_ofList hm)

end Brackets

/-! ## Values and texts -/

theorem IsNumber.isSorted {v : Json} (h : v.IsNumber) : v.IsSorted := by
  rcases h with ⟨n, rfl⟩ | ⟨x, rfl⟩ <;> exact trivial

theorem yields_word {letters : List Char} {v : Json} (h : v.IsSorted) :
    Yields (word letters v) IsSorted := by
  intro cs s read
  unfold word at read
  split at read
  · cases read
  · split at read <;> cases read
    exact h

section Values

variable {list object : Reader Json}

theorem yields_readerFor (hl : Yields list IsSorted) (ho : Yields object IsSorted) (c : Char) :
    Yields (readerFor list object c) IsSorted := by
  intro cs s read
  unfold readerFor at read
  split at read
  · obtain ⟨text, -, read⟩ := Except.bind_eq_ok.mp read
    cases read
    exact trivial
  split at read
  · exact hl _ _ read
  split at read
  · exact ho _ _ read
  split at read
  · exact yields_word (v := .null) trivial _ _ read
  split at read
  · exact yields_word (v := .bool true) trivial _ _ read
  split at read
  · exact yields_word (v := .bool false) trivial _ _ read
  split at read
  · exact (yields_number _ _ read).isSorted
  · cases read

theorem yields_valueWith (hl : Yields list IsSorted) (ho : Yields object IsSorted) :
    Yields (valueWith list object) IsSorted := by
  intro cs s read
  cases start : skipBlanks cs with
  | nil =>
      unfold valueWith at read
      split at read
      · cases read
      · next more => cases start.symm.trans more
  | cons c tail =>
      rw [valueWith_eq start] at read
      obtain ⟨taken, run, rfl⟩ := Except.map_eq_ok.mp read
      exact yields_readerFor hl ho c (c :: tail) taken run

end Values

/-- Reading at each depth goes through the depth before it. -/
theorem yields_value (depth : Nat) : Yields (value depth) IsSorted := by
  have refused : Yields refuseBracket IsSorted := fun _ _ read => by cases read
  induction depth with
  | zero => exact yields_valueWith refused refused
  | succ depth ih => exact yields_valueWith (yields_listOf ih) (yields_objectOf ih)

/-- Every value that a text denotes is in key order. -/
theorem isSorted_of_parse {text : String} {v : Json} (h : parse text = .ok v) : v.IsSorted := by
  unfold parse at h
  split at h
  · next whole =>
      cases h
      unfold wholeText at whole
      obtain ⟨s, run, whole⟩ := Except.bind_eq_ok.mp whole
      dsimp only at whole
      split at whole
      · cases whole
        exact yields_value _ _ _ run
      · cases whole
  · cases h

end Unsugar.Json
