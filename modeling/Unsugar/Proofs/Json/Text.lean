import Unsugar.Proofs.Json.Scalars
import Unsugar.Proofs.Json.Everywhere

/-!
# Values as text

A value is read back from its lines by induction on the value, where the number of brackets that may
still be opened goes down with it. Since a text is read from left to right and everything before a
bracket that nests too deep is read without a fault, such a text is refused for nothing else: what a
reader does with the text of a value is known in both cases (`ReadsIf`). Lists and objects are read
by loops of the same kind (`IsSequence`), about which this is said once.

Main statement: a value in key order and without doubles is what its text denotes if it nests no
deeper than the limit, and otherwise its text is refused for that (`parse_indented`).
-/

namespace Unsugar.Json

/-! ## Readers that refuse to nest -/

/-- A reader takes a value from a text and leaves a rest of it, unless the text nests deeper than it
allows: then it refuses a bracket. -/
def ReadsIf {α : Type} (fits : Prop) (read : Reader α) (cs : List Char) (a : α)
    (rest : List Char) : Prop :=
  match read cs with
  | .ok s => fits ∧ s.value = a ∧ s.rest = rest
  | .error e => ¬fits ∧ e.fault = .tooDeep

section Readers

variable {α : Type} {fits fits' : Prop} {read : Reader α} {cs rest : List Char} {a : α}

theorem Reads.readsIf (h : Reads read cs a rest) (allowed : fits) :
    ReadsIf fits read cs a rest := by
  obtain ⟨h, read⟩ := h
  simp [ReadsIf, read, allowed]

theorem ReadsIf.congr (h : ReadsIf fits read cs a rest) (same : fits ↔ fits') :
    ReadsIf fits' read cs a rest := by
  rwa [← propext same]

/-- A reader that makes something else of what another one takes. -/
theorem ReadsIf.map {β : Type} {read' : Reader β} {cs' : List Char}
    (h : ReadsIf fits read cs a rest) (f : α → β) (shorter : cs.length ≤ cs'.length)
    (same : read' cs' =
      (read cs).map fun s => ⟨f s.value, s.rest, Nat.lt_of_lt_of_le s.shorter shorter⟩) :
    ReadsIf fits read' cs' (f a) rest := by
  unfold ReadsIf at h ⊢
  rw [same]
  split at h
  · next s read =>
      obtain ⟨allowed, rfl, rfl⟩ := h
      simp [read, Except.map, allowed]
  · next e read => simpa [read, Except.map] using h

/-! ### Blanks -/

@[simp] theorem skipBlanks_newLine (level : Nat) (cs : List Char) :
    skipBlanks (newLine level ++ cs) = skipBlanks cs := by
  have blanks : ∀ n, skipBlanks (List.replicate n ' ' ++ cs) = skipBlanks cs := by
    intro n
    induction n with
    | zero => rfl
    | succ n ih => exact ih
  exact blanks (2 * level)

@[simp] theorem skipBlanks_blank (cs : List Char) : skipBlanks (' ' :: cs) = skipBlanks cs := rfl

theorem skipBlanks_of_not_isBlank {c : Char} (h : isBlank c = false) (cs : List Char) :
    skipBlanks (c :: cs) = c :: cs := by
  simp [skipBlanks, h]

end Readers

/-! ## Sequences in brackets -/

/-- A reader of sequences reads one element after the other, with a comma between two of them, up to
a closing bracket. -/
structure IsSequence {α : Type} (element : Reader α) (closing : Char) (seq : Reader (List α)) :
    Prop where
  error : ∀ {cs e}, element cs = .error e → seq cs = .error e
  last : ∀ {cs rest} {s : Step α cs}, element cs = .ok s → skipBlanks s.rest = closing :: rest →
    Reads seq cs [s.value] rest
  cons : ∀ {cs rest c tail} {s : Step α cs}, element cs = .ok s → skipBlanks s.rest = ',' :: rest →
    skipBlanks rest = c :: tail → c ≠ closing → ∃ shorter : rest.length < cs.length,
      seq cs = (seq rest).map fun t =>
        ⟨s.value :: t.value, t.rest, Nat.lt_trans t.shorter shorter⟩

theorem isSequence_itemsFrom (item : Reader Json) : IsSequence item ']' (itemsFrom item) where
  error := by
    intro cs e read
    rw [itemsFrom, read, Except.error_bind]
  last := by
    intro cs rest s read closed
    refine ⟨Nat.lt_trans (length_lt_of_skipBlanks closed) s.shorter, ?_⟩
    rw [itemsFrom, read, Except.ok_bind]
    dsimp only
    split
    · next hb => cases closed.symm.trans hb
    · next hb =>
        cases closed.symm.trans hb
        rfl
    · next hb => cases closed.symm.trans hb
    · next other _ => exact absurd closed (other _)
  cons := by
    intro cs rest c tail s read comma more hc
    refine ⟨Nat.lt_trans (length_lt_of_skipBlanks comma) s.shorter, ?_⟩
    rw [itemsFrom, read, Except.ok_bind]
    dsimp only
    split
    · next hb => cases comma.symm.trans hb
    · next hb => cases comma.symm.trans hb
    · next hb =>
        cases comma.symm.trans hb
        split
        · next none => cases more.symm.trans none
        · next hb =>
            cases more.symm.trans hb
            exact absurd rfl hc
        · rfl
    · next other => exact absurd comma (other _)

theorem isSequence_membersFrom (item : Reader Json) :
    IsSequence (member item) '}' (membersFrom item) where
  error := by
    intro cs e read
    rw [membersFrom, read, Except.error_bind]
  last := by
    intro cs rest s read closed
    refine ⟨Nat.lt_trans (length_lt_of_skipBlanks closed) s.shorter, ?_⟩
    rw [membersFrom, read, Except.ok_bind]
    dsimp only
    split
    · next hb => cases closed.symm.trans hb
    · next hb =>
        cases closed.symm.trans hb
        rfl
    · next hb => cases closed.symm.trans hb
    · next other _ => exact absurd closed (other _)
  cons := by
    intro cs rest c tail s read comma more hc
    refine ⟨Nat.lt_trans (length_lt_of_skipBlanks comma) s.shorter, ?_⟩
    rw [membersFrom, read, Except.ok_bind]
    dsimp only
    split
    · next hb => cases comma.symm.trans hb
    · next hb => cases comma.symm.trans hb
    · next hb =>
        cases comma.symm.trans hb
        split
        · next none => cases more.symm.trans none
        · next hb =>
            cases more.symm.trans hb
            exact absurd rfl hc
        · rfl
    · next other => exact absurd comma (other _)

/-- Elements in lines of their own, with a comma between two of them. -/
def layOut {α : Type} (level : Nat) (text : α → List Char) : List α → List Char
  | [] => []
  | [a] => newLine level ++ text a
  | a :: rest => newLine level ++ text a ++ ',' :: layOut level text rest

theorem indentedItems_eq (level : Nat) (vs : List Json) :
    indentedItems level vs = layOut level (indentedChars level) vs := by
  induction vs with
  | nil => simp [indentedItems, layOut]
  | cons v vs ih => cases vs <;> simp_all [indentedItems, layOut]

/-- The text of a member at a level. -/
def memberText (level : Nat) (m : String × Json) : List Char :=
  stringText m.1 ++ ':' :: ' ' :: indentedChars level m.2

theorem indentedMembers_eq (level : Nat) (ms : List (String × Json)) :
    indentedMembers level ms = layOut level (memberText level) ms := by
  induction ms with
  | nil => simp [indentedMembers, layOut]
  | cons m ms ih => cases ms <;> simp_all [indentedMembers, layOut, memberText]

theorem followsValue_newLine (level : Nat) (cs : List Char) : FollowsValue (newLine level ++ cs) :=
  ⟨_, _, rfl, .inr rfl⟩

theorem followsValue_comma (cs : List Char) : FollowsValue (',' :: cs) := ⟨_, _, rfl, .inl rfl⟩

/-- A text that begins with a character which is neither a blank nor a certain bracket. -/
def BeginsBefore (closing : Char) (cs : List Char) : Prop :=
  ∃ c tail, cs = c :: tail ∧ isBlank c = false ∧ c ≠ closing

/-- A reader takes an element from its text after any blanks, whatever follows. -/
def ReadsBack {α : Type} (fits : Prop) (read : Reader α) (text : List Char) (a : α) : Prop :=
  ∀ cs rest, skipBlanks cs = text ++ rest → FollowsValue rest → ReadsIf fits read cs a rest

theorem BeginsBefore.skipBlanks {closing : Char} {cs : List Char} (h : BeginsBefore closing cs)
    (level : Nat) (rest : List Char) : skipBlanks (newLine level ++ (cs ++ rest)) = cs ++ rest := by
  obtain ⟨c, tail, rfl, solid, -⟩ := h
  rw [skipBlanks_newLine, List.cons_append, skipBlanks_of_not_isBlank solid]

theorem BeginsBefore.skipBlanks_blank {closing : Char} {cs : List Char}
    (h : BeginsBefore closing cs) (rest : List Char) :
    Json.skipBlanks (' ' :: (cs ++ rest)) = cs ++ rest := h.skipBlanks 0 rest

/-- What is laid out begins as its first element does. -/
theorem BeginsBefore.skipBlanks_layOut {α : Type} {closing : Char} {text : α → List Char} {a : α}
    (h : BeginsBefore closing (text a)) (level : Nat) (as : List α) (rest : List Char) :
    ∃ c tail, Json.skipBlanks (layOut level text (a :: as) ++ rest) = c :: tail ∧ c ≠ closing := by
  obtain ⟨tail, lines⟩ : ∃ tail,
      layOut level text (a :: as) = newLine level ++ (text a ++ tail) := by
    cases as with
    | nil => exact ⟨[], by simp [layOut]⟩
    | cons b as => exact ⟨_, List.append_assoc _ _ _⟩
  rw [lines, List.append_assoc, List.append_assoc, h.skipBlanks]
  obtain ⟨c, cs, same, -, hc⟩ := h
  exact ⟨c, cs ++ (tail ++ rest), by rw [same]; rfl, hc⟩

namespace IsSequence

variable {α : Type} {element : Reader α} {closing : Char} {seq : Reader (List α)}
  {fits fits' : Prop} {cs rest rest' : List Char} {a : α} {as : List α}

theorem readsIf_last (isSequence : IsSequence element closing seq)
    (first : ReadsIf fits element cs a rest) (closed : skipBlanks rest = closing :: rest') :
    ReadsIf fits seq cs [a] rest' := by
  unfold ReadsIf at first
  split at first
  · next s read =>
      obtain ⟨allowed, rfl, rfl⟩ := first
      exact (isSequence.last read closed).readsIf allowed
  · next e read =>
      unfold ReadsIf
      rw [isSequence.error read]
      exact first

theorem readsIf_cons (isSequence : IsSequence element closing seq)
    (first : ReadsIf fits element cs a rest) (comma : skipBlanks rest = ',' :: rest')
    {c : Char} {tail : List Char} (more : skipBlanks rest' = c :: tail) (hc : c ≠ closing)
    {rest'' : List Char} (next : ReadsIf fits' seq rest' as rest'') :
    ReadsIf (fits ∧ fits') seq cs (a :: as) rest'' := by
  unfold ReadsIf at first
  split at first
  · next s read =>
      obtain ⟨allowed, rfl, rfl⟩ := first
      obtain ⟨shorter, step⟩ := isSequence.cons read comma more hc
      unfold ReadsIf at next ⊢
      rw [step]
      split at next
      · next t read' =>
          obtain ⟨allowed', rfl, rfl⟩ := next
          simp [read', Except.map, allowed, allowed']
      · next e read' => simpa [read', Except.map, allowed] using next
  · next e read =>
      unfold ReadsIf
      rw [isSequence.error read]
      exact ⟨fun allowed => first.1 allowed.1, first.2⟩

/-- A sequence is read back from the lines of its elements. -/
theorem readsIf_layOut (isSequence : IsSequence element closing seq)
    (bracket : isBlank closing = false) {text : α → List Char} {fits : α → Prop}
    (level outer : Nat) (rest : List Char) (a : α) (as : List α)
    (begins : ∀ b ∈ a :: as, BeginsBefore closing (text b))
    (back : ∀ b ∈ a :: as, ReadsBack (fits b) element (text b) b) :
    ReadsIf (∀ b ∈ a :: as, fits b) seq
      (layOut level text (a :: as) ++ (newLine outer ++ closing :: rest)) (a :: as) rest := by
  have closed : Json.skipBlanks (newLine outer ++ closing :: rest) = closing :: rest := by
    rw [skipBlanks_newLine, skipBlanks_of_not_isBlank bracket]
  induction as generalizing a with
  | nil =>
      obtain ⟨begins, -⟩ := List.forall_mem_cons.mp begins
      obtain ⟨back, -⟩ := List.forall_mem_cons.mp back
      rw [layOut, List.append_assoc]
      refine (isSequence.readsIf_last (back _ _ (begins.skipBlanks level _)
        (followsValue_newLine outer _)) closed).congr ?_
      simp
  | cons b as ih =>
      obtain ⟨begins, begins'⟩ := List.forall_mem_cons.mp begins
      obtain ⟨back, back'⟩ := List.forall_mem_cons.mp back
      obtain ⟨c, tail, more, hc⟩ := (begins' b List.mem_cons_self).skipBlanks_layOut level as
        (newLine outer ++ closing :: rest)
      rw [layOut, List.append_assoc, List.append_assoc, List.cons_append]
      · exact (isSequence.readsIf_cons (back _ _ (begins.skipBlanks level _)
          (followsValue_comma _)) rfl more hc (ih b begins' back')).congr
          List.forall_mem_cons.symm
      · simp

end IsSequence

/-! ## Lists and objects -/

section Brackets

variable {fits : Prop} {item : Reader Json} {cs rest : List Char} {c : Char}

theorem reads_listOf_nil (closed : skipBlanks cs = ']' :: rest) :
    Reads (listOf item) (c :: cs) (.arr []) rest := by
  refine ⟨Nat.lt_succ_of_lt (length_lt_of_skipBlanks closed), ?_⟩
  rw [listOf]
  split
  · next none => cases closed.symm.trans none
  · next hb =>
      cases closed.symm.trans hb
      rfl
  · next other => exact absurd closed (other _)

theorem readsIf_listOf {vs : List Json} {c' : Char} {tail : List Char}
    (more : skipBlanks cs = c' :: tail) (hc : c' ≠ ']')
    (items : ReadsIf fits (itemsFrom item) cs vs rest) :
    ReadsIf fits (listOf item) (c :: cs) (.arr vs) rest := by
  refine items.map Json.arr (Nat.le_succ _) ?_
  rw [listOf]
  split
  · next none => cases more.symm.trans none
  · next hb =>
      cases more.symm.trans hb
      exact absurd rfl hc
  · cases itemsFrom item cs <;> rfl

theorem reads_objectOf_nil (closed : skipBlanks cs = '}' :: rest) :
    Reads (objectOf item) (c :: cs) (.obj []) rest := by
  refine ⟨Nat.lt_succ_of_lt (length_lt_of_skipBlanks closed), ?_⟩
  rw [objectOf]
  split
  · next none => cases closed.symm.trans none
  · next hb =>
      cases closed.symm.trans hb
      rfl
  · next other => exact absurd closed (other _)

theorem readsIf_objectOf {ms : List (String × Json)} {c' : Char} {tail : List Char}
    (more : skipBlanks cs = c' :: tail) (hc : c' ≠ '}')
    (members : ReadsIf fits (membersFrom item) cs ms rest) :
    ReadsIf fits (objectOf item) (c :: cs) (mkObj ms) rest := by
  refine members.map mkObj (Nat.le_succ _) ?_
  rw [objectOf]
  split
  · next none => cases more.symm.trans none
  · next hb =>
      cases more.symm.trans hb
      exact absurd rfl hc
  · cases membersFrom item cs <;> rfl

theorem readsIf_member {k : String} {v : Json} {rest' rest'' : List Char}
    (key : Reads string (skipBlanks cs) k rest) (colon : skipBlanks rest = ':' :: rest')
    (value : ReadsIf fits item rest' v rest'') : ReadsIf fits (member item) cs (k, v) rest'' := by
  obtain ⟨h, key⟩ := key
  have shorter : rest'.length < cs.length :=
    Nat.lt_of_lt_of_le (Nat.lt_trans (length_lt_of_skipBlanks colon) h) (length_skipBlanks_le cs)
  refine value.map (k, ·) (Nat.le_of_lt shorter) ?_
  unfold member
  rw [key, Except.ok_bind]
  dsimp only
  split
  · next none => cases colon.symm.trans none
  · next hb =>
      cases colon.symm.trans hb
      cases item rest' <;> rfl
  · next other => exact absurd colon (other _)

/-- A member is read back if its value is. -/
theorem readsBack_member {level : Nat} {m : String × Json}
    (back : ReadsBack fits item (indentedChars level m.2) m.2)
    (begins : BeginsBefore ']' (indentedChars level m.2)) :
    ReadsBack fits (member item) (memberText level m) m := by
  intro cs rest start follows
  have key := reads_stringText m.1 (':' :: ' ' :: (indentedChars level m.2 ++ rest))
  rw [show stringText m.1 ++ ':' :: ' ' :: (indentedChars level m.2 ++ rest) = skipBlanks cs by
    simp [start, memberText]] at key
  exact readsIf_member key rfl (back _ _ (begins.skipBlanks_blank rest) follows)

end Brackets

/-! ## Values -/

/-- The reader that the first character of a value calls for. -/
def readerFor (list object : Reader Json) (c : Char) : Reader Json := fun cs =>
  if c = '"' then do
    let ⟨s, rest, h⟩ ← string cs
    .ok ⟨.str s, rest, h⟩
  else if c = '[' then list cs
  else if c = '{' then object cs
  else if c = 'n' then word ['u', 'l', 'l'] .null cs
  else if c = 't' then word ['r', 'u', 'e'] (.bool true) cs
  else if c = 'f' then word ['a', 'l', 's', 'e'] (.bool false) cs
  else if c = '-' || isDigit c then number cs
  else .error (faultAt .expectedValue cs)

section Values

variable {fits : Prop} {list object : Reader Json} {cs rest tail : List Char} {c : Char} {v : Json}

/-- A value is read by the reader that its first character calls for. -/
theorem valueWith_eq (start : skipBlanks cs = c :: tail) :
    valueWith list object cs = (readerFor list object c (c :: tail)).map fun s =>
      ⟨s.value, s.rest, Nat.lt_of_lt_of_le s.shorter (length_lt_of_skipBlanks start)⟩ := by
  unfold valueWith
  split
  · next none => cases start.symm.trans none
  · next hb =>
      cases start.symm.trans hb
      change (readerFor list object c (c :: tail) >>= _) = _
      cases readerFor list object c (c :: tail) <;> rfl

theorem readsIf_valueWith (start : skipBlanks cs = c :: tail)
    (h : ReadsIf fits (readerFor list object c) (c :: tail) v rest) :
    ReadsIf fits (valueWith list object) cs v rest :=
  h.map id (length_lt_of_skipBlanks start) (valueWith_eq start)

theorem readerFor_number (h : c = '-' ∨ isDigit c = true) : readerFor list object c = number := by
  have others : c ≠ '"' ∧ c ≠ '[' ∧ c ≠ '{' ∧ c ≠ 'n' ∧ c ≠ 't' ∧ c ≠ 'f' := by
    refine ⟨?_, ?_, ?_, ?_, ?_, ?_⟩
    all_goals
      rintro rfl
      rcases h with h | h <;> cases h
  funext cs
  simp [readerFor, others, h]

theorem beginsBefore_indentedChars {v : Json} (noDouble : v.IsNoDouble) (level : Nat) :
    BeginsBefore ']' (indentedChars level v) := by
  cases v with
  | null => exact ⟨'n', _, rfl, rfl, by decide⟩
  | bool b => cases b <;> exact ⟨_, _, rfl, rfl, by decide⟩
  | int n =>
      obtain ⟨-, c, cs, text, start⟩ := reads_intText n (followsValue_comma [])
      refine ⟨c, cs, by rw [indentedChars, text], ?_, ?_⟩
      · by_contra blank
        simp only [isBlank, Bool.not_eq_false, Bool.or_eq_true, decide_eq_true_eq] at blank
        obtain ((rfl | rfl) | rfl) | rfl := blank
        all_goals rcases start with start | start <;> cases start
      · rintro rfl
        rcases start with start | start <;> cases start
  | float x => exact absurd noDouble id
  | str s => exact ⟨'"', _, by rw [indentedChars, stringText]; rfl, rfl, by decide⟩
  | arr items => cases items <;> exact ⟨'[', _, rfl, rfl, by decide⟩
  | obj members => cases members <;> exact ⟨'{', _, rfl, rfl, by decide⟩

theorem value_eq (d : Nat) : ∃ list object, value d = valueWith list object := by
  cases d <;> exact ⟨_, _, rfl⟩

/-- A value that is no list or object is read back whatever nesting is allowed. -/
theorem readsBack_scalar (read : Reader Json) {d : Nat}
    (chosen : ∀ list object, readerFor list object c = read)
    (back : ∀ rest, FollowsValue rest → Reads read (c :: tail ++ rest) v rest) (allowed : fits) :
    ReadsBack fits (value d) (c :: tail) v := by
  obtain ⟨list, object, same⟩ := value_eq d
  intro cs rest start follows
  rw [same]
  refine readsIf_valueWith start ?_
  rw [chosen]
  exact (back rest follows).readsIf allowed

/-- Where no nesting is allowed, a bracket is refused. -/
theorem readsBack_refused (bracket : c = '[' ∨ c = '{') (deep : ¬fits) :
    ReadsBack fits (value 0) (c :: tail) v := by
  intro cs rest start _
  refine readsIf_valueWith start ?_
  obtain rfl | rfl := bracket <;> exact ⟨deep, rfl⟩

theorem readsBack_arr {items : List Json} {d level : Nat}
    (begins : ∀ v ∈ items, BeginsBefore ']' (indentedChars (level + 1) v))
    (back : ∀ v ∈ items, ReadsBack (v.depth ≤ d) (value d) (indentedChars (level + 1) v) v) :
    ReadsBack ((Json.arr items).depth ≤ d + 1) (value (d + 1)) (indentedChars level (.arr items))
      (.arr items) := by
  intro cs rest start follows
  cases items with
  | nil =>
      refine readsIf_valueWith start ((reads_listOf_nil rfl).readsIf ?_)
      simp [depth, itemsDepth]
  | cons v vs =>
      have text : indentedChars level (.arr (v :: vs)) ++ rest =
          '[' :: (layOut (level + 1) (indentedChars (level + 1)) (v :: vs) ++
            (newLine level ++ ']' :: rest)) := by
        simp [indentedChars, indentedItems_eq]
      obtain ⟨c, tail, more, hc⟩ := (begins v List.mem_cons_self).skipBlanks_layOut (level + 1) vs
        (newLine level ++ ']' :: rest)
      refine readsIf_valueWith (start.trans text) (readsIf_listOf more hc ?_)
      exact ((isSequence_itemsFrom _).readsIf_layOut rfl (level + 1) level rest v vs begins
        back).congr depth_arr_le.symm

theorem readsBack_obj {members : List (String × Json)} {d level : Nat}
    (sorted : Assoc.Sorted members)
    (begins : ∀ m ∈ members, BeginsBefore ']' (indentedChars (level + 1) m.2))
    (back : ∀ m ∈ members,
      ReadsBack (m.2.depth ≤ d) (value d) (indentedChars (level + 1) m.2) m.2) :
    ReadsBack ((Json.obj members).depth ≤ d + 1) (value (d + 1))
      (indentedChars level (.obj members)) (.obj members) := by
  intro cs rest start follows
  cases members with
  | nil =>
      refine readsIf_valueWith start ((reads_objectOf_nil rfl).readsIf ?_)
      simp [depth, membersDepth]
  | cons m ms =>
      have text : indentedChars level (.obj (m :: ms)) ++ rest =
          '{' :: (layOut (level + 1) (memberText (level + 1)) (m :: ms) ++
            (newLine level ++ '}' :: rest)) := by
        simp [indentedChars, indentedMembers_eq]
      have quoted : ∀ m' ∈ m :: ms, BeginsBefore '}' (memberText (level + 1) m') := fun m' _ =>
        ⟨'"', _, by rw [memberText, stringText]; rfl, rfl, by decide⟩
      obtain ⟨c, tail, more, hc⟩ := (quoted m List.mem_cons_self).skipBlanks_layOut (level + 1) ms
        (newLine level ++ '}' :: rest)
      have members := (isSequence_membersFrom _).readsIf_layOut rfl (level + 1) level rest m ms
        quoted fun m' hm' => readsBack_member (back m' hm') (begins m' hm')
      have object := readsIf_objectOf (c := '{') more hc (members.congr depth_obj_le.symm)
      rw [mkObj_of_sorted sorted] at object
      exact readsIf_valueWith (start.trans text) object

theorem reads_str (s : String) (rest : List Char) :
    Reads (readerFor list object '"') (stringText s ++ rest) (.str s) rest := by
  obtain ⟨h, read⟩ := reads_stringText s rest
  refine ⟨h, ?_⟩
  simp [readerFor, read]

theorem reads_null (rest : List Char) :
    Reads (word ['u', 'l', 'l'] .null) ('n' :: 'u' :: 'l' :: 'l' :: rest) .null rest :=
  ⟨by simp; omega, rfl⟩

theorem reads_false (rest : List Char) :
    Reads (word ['a', 'l', 's', 'e'] (.bool false)) ('f' :: 'a' :: 'l' :: 's' :: 'e' :: rest)
      (.bool false) rest :=
  ⟨by simp; omega, rfl⟩

theorem reads_true (rest : List Char) :
    Reads (word ['r', 'u', 'e'] (.bool true)) ('t' :: 'r' :: 'u' :: 'e' :: rest)
      (.bool true) rest :=
  ⟨by simp; omega, rfl⟩

/-- A value is read back from its lines, unless it nests too deep. -/
theorem readsBack_value (v : Json) : v.IsSorted → v.IsExact → ∀ d level,
    ReadsBack (v.depth ≤ d) (value d) (indentedChars level v) v := by
  induction v using Json.induction with
  | null =>
      intro _ _ d level
      exact readsBack_scalar (word ['u', 'l', 'l'] .null) (fun _ _ => rfl)
        (fun rest _ => reads_null rest) (Nat.zero_le d)
  | bool b =>
      intro _ _ d level
      cases b
      · exact readsBack_scalar (word ['a', 'l', 's', 'e'] (.bool false)) (fun _ _ => rfl)
          (fun rest _ => reads_false rest) (Nat.zero_le d)
      · exact readsBack_scalar (word ['r', 'u', 'e'] (.bool true)) (fun _ _ => rfl)
          (fun rest _ => reads_true rest) (Nat.zero_le d)
  | int n =>
      intro _ _ d level
      obtain ⟨-, c, cs, text, start⟩ := reads_intText n (followsValue_comma [])
      rw [indentedChars, text]
      refine readsBack_scalar number (fun _ _ => readerFor_number start)
        (fun rest follows => ?_) (Nat.zero_le d)
      exact text ▸ (reads_intText n follows).1
  | float x => exact fun _ exactly => absurd exactly id
  | str s =>
      intro _ _ d level
      exact readsBack_scalar (readerFor refuseBracket refuseBracket '"') (fun _ _ => rfl)
        (fun rest _ => reads_str s rest) (Nat.zero_le d)
  | arr items ih =>
      intro sorted exactly d level
      obtain ⟨-, sorted⟩ := everywhere_arr.mp sorted
      obtain ⟨-, exactly⟩ := everywhere_arr.mp exactly
      cases d with
      | zero =>
        cases items <;> exact readsBack_refused (.inl rfl) (by simp [depth])
      | succ d =>
          exact readsBack_arr (fun v hv => beginsBefore_indentedChars (exactly v hv).here _)
            fun v hv => ih v hv (sorted v hv) (exactly v hv) d (level + 1)
  | obj members ih =>
      intro sorted exactly d level
      obtain ⟨ascends, sorted⟩ := everywhere_obj.mp sorted
      obtain ⟨-, exactly⟩ := everywhere_obj.mp exactly
      cases d with
      | zero =>
        cases members <;> exact readsBack_refused (.inr rfl) (by simp [depth])
      | succ d =>
          exact readsBack_obj ascends
            (fun m hm => beginsBefore_indentedChars (exactly m hm).here _)
            fun m hm => ih m hm (sorted m hm) (exactly m hm) d (level + 1)

end Values

/-! ## Texts -/

theorem wholeText_of_readsIf {fits : Prop} {cs rest : List Char} {v : Json}
    (read : ReadsIf fits (value maxDepth) cs v rest) (blank : skipBlanks rest = []) :
    (fits → wholeText cs = .ok v) ∧
      (¬fits → ∃ e, wholeText cs = .error e ∧ e.fault = .tooDeep) := by
  unfold ReadsIf at read
  unfold wholeText
  split at read
  · next s h =>
      obtain ⟨allowed, rfl, rfl⟩ := read
      refine ⟨fun _ => ?_, fun deep => absurd allowed deep⟩
      rw [h, Except.ok_bind]
      dsimp only
      rw [blank]
  · next e h =>
      refine ⟨fun allowed => absurd allowed read.1, fun _ => ⟨e, ?_, read.2⟩⟩
      rw [h, Except.error_bind]

/-- A value in key order and without doubles is what its text denotes, up to the limit of
nesting. -/
theorem parse_indented {v : Json} (sorted : v.IsSorted) (exactly : v.IsExact) :
    (v.depth ≤ maxDepth → parse (v.indented ++ "\n") = .ok v) ∧
      (maxDepth < v.depth →
        ∃ e, parse (v.indented ++ "\n") = .error e ∧ e.fault = .tooDeep) := by
  have chars : (v.indented ++ "\n").toList = indentedChars 0 v ++ ['\n'] := by
    simp [indented]
  obtain ⟨c, tail, text, solid, -⟩ := beginsBefore_indentedChars exactly.here 0
  have start : skipBlanks (indentedChars 0 v ++ ['\n']) = indentedChars 0 v ++ ['\n'] := by
    rw [text, List.cons_append, skipBlanks_of_not_isBlank solid]
  obtain ⟨shallow, deep⟩ := wholeText_of_readsIf
    (readsBack_value v sorted exactly maxDepth 0 _ _ start (followsValue_newLine 0 [])) rfl
  unfold parse
  rw [chars]
  constructor
  · intro allowed
    rw [shallow allowed]
  · intro nested
    obtain ⟨e, refused, tooDeep⟩ := deep (Nat.not_le.mpr nested)
    rw [refused]
    exact ⟨_, rfl, tooDeep⟩

end Unsugar.Json
