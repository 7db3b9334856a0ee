import Unsugar.Interchange.Node
import Unsugar.Interchange.Writer
import Unsugar.Proofs.Except

/-!
# What the accessors of a node read

A successful read says what the value holds: a member under its name, the items of a list in
order, a scalar as it stands. The lemmas here say so for each accessor, without paths, since a
path matters to errors alone. Scalars that are read by one accessor are determined by what they
are written as, so for those the two directions are one (`stringField_eq_ok`, `loc_eq_ok`,
`uint64_eq_ok`).
-/

namespace Unsugar

/-! ## Integers -/

namespace WideInt

theorem toInt64?_eq_some {n : WideInt} {i : Int64} : n.toInt64? = some i ↔ n = ofInt64 i := by
  obtain ⟨v, least, limit⟩ := n
  simp only [toInt64?, ofInt64, Option.ite_none_right_eq_some, Option.some.injEq, mk.injEq]
  constructor
  · rintro ⟨small, rfl⟩
    exact (Int64.toInt_ofInt_of_le least small).symm
  · rintro rfl
    exact ⟨i.toInt_lt, Int64.ofInt_toInt i⟩

theorem toUInt64?_eq_some {n : WideInt} {i : UInt64} : n.toUInt64? = some i ↔ n = ofUInt64 i := by
  obtain ⟨v, least, limit⟩ := n
  simp only [toUInt64?, ofUInt64, Option.ite_none_right_eq_some, Option.some.injEq, mk.injEq]
  constructor
  · rintro ⟨nonneg, rfl⟩
    rw [UInt64.toNat_ofNat_of_lt' (by simp only [UInt64.size]; omega)]
    omega
  · rintro rfl
    exact ⟨by omega, by simp⟩

theorem toUInt32?_eq_some {n : WideInt} {i : UInt32} : n.toUInt32? = some i ↔ n = ofUInt32 i := by
  obtain ⟨v, least, limit⟩ := n
  simp only [toUInt32?, ofUInt32, Option.ite_none_right_eq_some, Option.some.injEq, mk.injEq]
  constructor
  · rintro ⟨⟨nonneg, small⟩, rfl⟩
    rw [UInt32.toNat_ofNat_of_lt' (by simp only [UInt32.size]; omega)]
    omega
  · rintro rfl
    have := i.toNat_lt
    exact ⟨⟨by omega, by omega⟩, by simp⟩

end WideInt

namespace Json

theorem toInt64?_eq_some {v : Json} {i : Int64} :
    v.toInt64? = some i ↔ v = .int (.ofInt64 i) := by
  cases v <;> simp [toInt64?, WideInt.toInt64?_eq_some]

theorem toUInt64?_eq_some {v : Json} {i : UInt64} :
    v.toUInt64? = some i ↔ v = .int (.ofUInt64 i) := by
  cases v <;> simp [toUInt64?, WideInt.toUInt64?_eq_some]

theorem toUInt32?_eq_some {v : Json} {i : UInt32} :
    v.toUInt32? = some i ↔ v = .ofUInt32 i := by
  cases v <;> simp [toUInt32?, ofUInt32, WideInt.toUInt32?_eq_some]

end Json

namespace Node

variable {α : Type} {n : Node} {name : String}

/-! ## Members -/

/-- A member that is there and not null is read as it stands. -/
theorem member?_eq_some {m : n.Inner} (h : n.member? name = .ok (some m)) :
    n.value.get? name = some m.1.value ∧ m.1.value ≠ .null := by
  unfold member? at h
  split at h
  · next members hn =>
      split at h
      · cases h
      · cases h
      · next v ne hv =>
          cases h
          simp only [hn]
          exact ⟨hv, ne⟩
  · cases h

theorem member?_eq_none (h : n.member? name = .ok none) :
    n.value.get? name = none ∨ n.value.get? name = some .null := by
  unfold member? at h
  split at h
  · next members hn =>
      rw [hn]
      split at h
      · next hv => exact Or.inl hv
      · next hv => exact Or.inr hv
      · cases h
  · cases h

theorem member?_of_some {v : Json} (h : n.value.get? name = some v) (present : v ≠ .null) :
    ∃ m : n.Inner, m.1.value = v ∧ n.member? name = .ok (some m) := by
  obtain ⟨value, path⟩ := n
  cases value with
  | obj members =>
      simp only [Json.get?] at h
      unfold member?
      split
      · next hn =>
          cases hn
          split
          · next hv => rw [h] at hv; cases hv
          · next hv => rw [h] at hv; cases hv; exact absurd rfl present
          · next w ne hv =>
              rw [h] at hv
              cases hv
              exact ⟨_, rfl, rfl⟩
      · next other => exact absurd rfl (other members)
  | _ => cases h

theorem member?_of_null {members : List (String × Json)} (hn : n.value = .obj members)
    (h : members.lookup name = none ∨ members.lookup name = some .null) :
    n.member? name = .ok none := by
  unfold member?
  split
  · next hn' =>
      rw [hn] at hn'
      cases hn'
      split
      · rfl
      · rfl
      · next v ne hv =>
          rcases h with h | h
          · rw [h] at hv; cases hv
          · rw [h] at hv; cases hv; exact absurd rfl ne
  · next other => exact absurd hn (other members)

theorem field_eq_ok {f : n.Inner → Read α} {a : α} :
    n.field name f = .ok a ↔ ∃ m, n.member? name = .ok (some m) ∧ f m = .ok a := by
  simp only [field, Except.bind_eq_ok]
  constructor
  · rintro ⟨o, ho, h⟩
    cases o with
    | none => cases h
    | some m => exact ⟨m, ho, h⟩
  · rintro ⟨m, hm, h⟩
    exact ⟨some m, hm, h⟩

theorem fieldOpt_eq_ok {f : n.Inner → Read α} {o : Option α} :
    n.fieldOpt name f = .ok o ↔
      (∃ m a, n.member? name = .ok (some m) ∧ f m = .ok a ∧ o = some a) ∨
        n.member? name = .ok none ∧ o = none := by
  simp only [fieldOpt, Except.bind_eq_ok]
  constructor
  · rintro ⟨member, hm, h⟩
    cases member with
    | none =>
        cases h
        exact Or.inr ⟨hm, rfl⟩
    | some m =>
        obtain ⟨a, ha, rfl⟩ := Except.map_eq_ok.mp h
        exact Or.inl ⟨m, a, hm, ha, rfl⟩
  · rintro (⟨m, a, hm, ha, rfl⟩ | ⟨hm, rfl⟩)
    · exact ⟨some m, hm, Except.map_eq_ok.mpr ⟨a, ha, rfl⟩⟩
    · exact ⟨none, hm, rfl⟩

theorem get?_of_eq {v u : Json} (hn : n.value = v) (found : v.get? name = some u) :
    n.value.get? name = some u := by
  rw [hn]
  exact found

/-- A member is read from its value wherever it stands. -/
theorem field_of_some {f : n.Inner → Read α} {v : Json} {a : α} (h : n.value.get? name = some v)
    (present : v ≠ .null) (read : ∀ m : n.Inner, m.1.value = v → f m = .ok a) :
    n.field name f = .ok a := by
  obtain ⟨m, hv, hm⟩ := member?_of_some h present
  exact field_eq_ok.mpr ⟨m, hm, read m hv⟩

/-- An optional member is written as null if there is none. -/
theorem fieldOpt_of_some {f : n.Inner → Read α} {v : Json} {a : α}
    (found : n.value.get? name = some v) (present : v ≠ .null)
    (read : ∀ m : n.Inner, m.1.value = v → f m = .ok a) : n.fieldOpt name f = .ok (some a) := by
  obtain ⟨m, hv, hm⟩ := member?_of_some found present
  exact fieldOpt_eq_ok.mpr (Or.inl ⟨m, a, hm, read m hv, rfl⟩)

theorem fieldOpt_of_null {f : n.Inner → Read α}
    (found : n.value.get? name = some .null) : n.fieldOpt name f = .ok none := by
  refine fieldOpt_eq_ok.mpr (Or.inr ⟨?_, rfl⟩)
  cases hn : n.value with
  | obj members =>
      rw [hn] at found
      exact member?_of_null hn (Or.inr found)
  | _ =>
      rw [hn] at found
      cases found

theorem tag?_eq_ok {s : String} :
    n.tag? name = .ok (some s) ↔ n.value.get? name = some (.str s) := by
  unfold tag?
  split
  · next members hn =>
      rw [hn, Json.get?]
      split
      · next t ht => simp [ht]
      · next other => simpa using fun h => absurd h (other s)
  · next other =>
      cases hv : n.value with
      | obj members => exact absurd hv (other members)
      | _ => simp [Json.get?]

/-! ## Items -/

theorem readItems_eq_ok {f : n.Inner → Read α} {i : Nat} {vs : List Json}
    {lt : sizeOf vs < sizeOf n.value} {as : List α} (h : n.readItems f i vs lt = .ok as) :
    List.Forall₂ (fun v a => ∃ m : n.Inner, m.1.value = v ∧ f m = .ok a) vs as := by
  induction vs generalizing i as with
  | nil =>
      cases h
      exact .nil
  | cons v vs ih =>
      obtain ⟨a, ha, h⟩ := Except.bind_eq_ok.mp h
      obtain ⟨as', has, h⟩ := Except.bind_eq_ok.mp h
      cases h
      exact .cons ⟨_, rfl, ha⟩ (ih has)

theorem items_eq_ok {f : n.Inner → Read α} {as : List α} (h : n.items f = .ok as) :
    ∃ vs, n.value = .arr vs ∧
      List.Forall₂ (fun v a => ∃ m : n.Inner, m.1.value = v ∧ f m = .ok a) vs as := by
  unfold items at h
  split at h
  · next vs hn => exact ⟨vs, hn, readItems_eq_ok h⟩
  · cases h

theorem readItems_of_forall₂ {f : n.Inner → Read α} {vs : List Json} {as : List α}
    (read : List.Forall₂ (fun v a => ∀ m : n.Inner, m.1.value = v → f m = .ok a) vs as)
    (i : Nat) (lt : sizeOf vs < sizeOf n.value) : n.readItems f i vs lt = .ok as := by
  induction read generalizing i with
  | nil => rfl
  | cons head _ ih =>
      rw [readItems, head _ rfl, Except.ok_bind, ih]
      rfl

theorem items_of_forall₂ {f : n.Inner → Read α} {vs : List Json} {as : List α}
    (hn : n.value = .arr vs)
    (read : List.Forall₂ (fun v a => ∀ m : n.Inner, m.1.value = v → f m = .ok a) vs as) :
    n.items f = .ok as := by
  unfold items
  split
  · next hn' =>
      rw [hn] at hn'
      cases hn'
      exact readItems_of_forall₂ read _ _
  · next other => exact absurd hn (other vs)

theorem fieldItemsOrNone_of_some {f : n.Inner → Read α} {v : Json} {as : List α}
    (found : n.value.get? name = some v) (present : v ≠ .null)
    (read : ∀ m : n.Inner, m.1.value = v → m.items f = .ok as) :
    n.fieldItemsOrNone name f = .ok as := by
  rw [fieldItemsOrNone, fieldOpt_of_some found present read]
  rfl

/-! ## Scalars -/

theorem string_eq_ok {s : String} : n.string = .ok s ↔ n.value = .str s := by
  cases h : n.value <;> simp [string, h]

theorem scalar_eq_ok {view : Json → Option α} {expected : Expected} {a : α} :
    n.scalar view expected = .ok a ↔ view n.value = some a := by
  cases h : view n.value <;> simp [scalar, h]

theorem char_eq_ok {c : Char} : n.char = .ok c ↔ n.value = .str (String.singleton c) := by
  simp only [char, Except.bind_eq_ok, string_eq_ok]
  constructor
  · rintro ⟨s, hs, h⟩
    split at h
    · next c' hc =>
        cases h
        rw [hs, String.singleton_eq_ofList, ← hc, String.ofList_toList]
    · cases h
  · intro h
    exact ⟨_, h, by simp⟩

/-- A member is read as `a` exactly when it is `w`, if that is so of the reader and `w` is not
null. -/
theorem field_eq_ok_iff {f : n.Inner → Read α} {w : Json} {a : α} (present : w ≠ .null)
    (agree : ∀ m : n.Inner, f m = .ok a ↔ m.1.value = w) :
    n.field name f = .ok a ↔ n.value.get? name = some w := by
  constructor
  · intro h
    obtain ⟨m, hm, h⟩ := field_eq_ok.mp h
    rw [← (agree m).mp h]
    exact (member?_eq_some hm).1
  · intro h
    exact field_of_some h present fun m hm => (agree m).mpr hm

theorem stringField_eq_ok {s : String} :
    n.stringField name = .ok s ↔ n.value.get? name = some (.str s) :=
  field_eq_ok_iff Json.noConfusion fun _ => string_eq_ok

theorem field_int64_eq_ok {i : Int64} :
    n.field name (·.1.int64) = .ok i ↔ n.value.get? name = some (.int (.ofInt64 i)) :=
  field_eq_ok_iff Json.noConfusion fun _ => scalar_eq_ok.trans Json.toInt64?_eq_some

theorem field_uint64_eq_ok {i : UInt64} :
    n.field name (·.1.uint64) = .ok i ↔ n.value.get? name = some (.int (.ofUInt64 i)) :=
  field_eq_ok_iff Json.noConfusion fun _ => scalar_eq_ok.trans Json.toUInt64?_eq_some

theorem field_uint32_eq_ok {i : UInt32} :
    n.field name (·.1.uint32) = .ok i ↔ n.value.get? name = some (.ofUInt32 i) :=
  field_eq_ok_iff Json.noConfusion fun _ => scalar_eq_ok.trans Json.toUInt32?_eq_some

theorem field_char_eq_ok {c : Char} :
    n.field name (·.1.char) = .ok c ↔ n.value.get? name = some (.str (String.singleton c)) :=
  field_eq_ok_iff Json.noConfusion fun _ => char_eq_ok

/-- A location has one form. -/
theorem loc_eq_ok {l : Loc} : n.loc = .ok l ↔ n.value.get? "loc" = some l.toJson := by
  obtain ⟨line, column⟩ := l
  have present : Loc.toJson ⟨line, column⟩ ≠ .null := by
    cases column <;> simp [Loc.toJson, Json.ofUInt32]
  apply field_eq_ok_iff present
  rintro ⟨⟨v, path⟩, lt⟩
  cases v with
  | int _ | float _ =>
      simp only [Except.map_eq_ok, uint32, scalar_eq_ok, Json.toUInt32?_eq_some, Loc.onLine]
      cases column <;> simp [Loc.toJson, Json.ofUInt32, and_comm]
  | arr items =>
      rcases items with _ | ⟨a, _ | ⟨b, _ | ⟨c, rest⟩⟩⟩
      case cons.cons.nil =>
        simp only [Loc.toJson]
        constructor
        · intro h
          split at h
          · next i j hi hj =>
              cases h
              rw [Json.toUInt32?_eq_some.mp hi, Json.toUInt32?_eq_some.mp hj]
          · cases h
        · intro h
          cases column with
          | none => cases h
          | some j =>
              cases h
              rw [Json.toUInt32?_eq_some.mpr rfl, Json.toUInt32?_eq_some.mpr rfl]
      all_goals cases column <;> simp [Loc.toJson, Json.ofUInt32]
  | _ => cases column <;> simp [Loc.toJson, Json.ofUInt32]

end Node

end Unsugar
