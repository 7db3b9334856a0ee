import Unsugar.Json.Basic
import Mathlib.Data.List.Basic

/-!
# Properties throughout a value

A property of values is carried to all values inside. Two of them decide whether a value is found
again in its text: its objects are in key order, as all objects are that come from text or from
outside, and it holds no doubles, whose texts are rounded on reading.

Main statement: the members of an object in key order are those that they are made to
(`mkObj_of_sorted`).
-/

namespace Unsugar

/-! ## Maps in key order -/

namespace Assoc

variable {α : Type}

theorem insert_of_forall_lt {key : String} {value : α} {map : List (String × α)}
    (last : ∀ e ∈ map, e.1 < key) : insert key value map = map ++ [(key, value)] := by
  induction map with
  | nil => rfl
  | cons e rest ih =>
      obtain ⟨here, rest_lt⟩ := List.forall_mem_cons.mp last
      have not_lt : ¬key < e.1 := fun lt => String.lt_irrefl _ (String.lt_trans lt here)
      have ne : key ≠ e.1 := fun eq => String.lt_irrefl _ (eq ▸ here)
      rw [insert, if_neg not_lt, if_neg ne, ih rest_lt, List.cons_append]

/-- A map in key order is the map of its entries. -/
theorem ofList_of_sorted {map : List (String × α)} (sorted : Sorted map) : ofList map = map := by
  suffices ∀ before after : List (String × α), Sorted (before ++ after) →
      after.foldl (fun m e => insert e.1 e.2 m) before = before ++ after from this [] map sorted
  intro before after sorted
  induction after generalizing before with
  | nil => simp
  | cons e after ih =>
      have last : ∀ e' ∈ before, e'.1 < e.1 := fun e' he' =>
        (List.pairwise_append.mp sorted).2.2 e' he' e List.mem_cons_self
      rw [List.foldl_cons, insert_of_forall_lt last, ih _ (by simpa using sorted)]
      simp

/-- The map of a list of entries has no entry that is not in the list. -/
theorem mem_of_mem_ofList {entries : List (String × α)} {e : String × α}
    (h : e ∈ ofList entries) : e ∈ entries := by
  suffices ∀ map : List (String × α), e ∈ entries.foldl (fun m e => insert e.1 e.2 m) map →
      e ∈ map ∨ e ∈ entries from (this [] h).resolve_left List.not_mem_nil
  clear h
  induction entries with
  | nil => exact fun _ h => .inl h
  | cons first rest ih =>
      intro map h
      rcases ih _ h with h | h
      · rcases mem_insert h with rfl | h
        · exact .inr List.mem_cons_self
        · exact .inl h
      · exact .inr (List.mem_cons_of_mem _ h)

end Assoc

namespace Json

/-! ## Values inside values -/

mutual

/-- The value and all values inside it have the property. -/
def Everywhere (p : Json → Prop) : Json → Prop
  | .arr items => p (.arr items) ∧ ItemsEverywhere p items
  | .obj members => p (.obj members) ∧ MembersEverywhere p members
  | .null => p .null
  | .bool b => p (.bool b)
  | .int n => p (.int n)
  | .float x => p (.float x)
  | .str s => p (.str s)

def ItemsEverywhere (p : Json → Prop) : List Json → Prop
  | [] => True
  | v :: rest => Everywhere p v ∧ ItemsEverywhere p rest

def MembersEverywhere (p : Json → Prop) : List (String × Json) → Prop
  | [] => True
  | (_, v) :: rest => Everywhere p v ∧ MembersEverywhere p rest

end

variable {p : Json → Prop}

theorem itemsEverywhere_iff {items : List Json} :
    ItemsEverywhere p items ↔ ∀ v ∈ items, v.Everywhere p := by
  induction items with
  | nil => simp [ItemsEverywhere]
  | cons v rest ih => simp [ItemsEverywhere, ih]

theorem membersEverywhere_iff {members : List (String × Json)} :
    MembersEverywhere p members ↔ ∀ m ∈ members, m.2.Everywhere p := by
  induction members with
  | nil => simp [MembersEverywhere]
  | cons m rest ih => simp [MembersEverywhere, ih]

theorem everywhere_arr {items : List Json} :
    (Json.arr items).Everywhere p ↔ p (.arr items) ∧ ∀ v ∈ items, v.Everywhere p := by
  rw [Everywhere, itemsEverywhere_iff]

theorem everywhere_obj {members : List (String × Json)} :
    (Json.obj members).Everywhere p ↔ p (.obj members) ∧ ∀ m ∈ members, m.2.Everywhere p := by
  rw [Everywhere, membersEverywhere_iff]

theorem Everywhere.here {v : Json} (h : v.Everywhere p) : p v := by
  cases v with
  | arr items => exact h.1
  | obj members => exact h.1
  | _ => exact h

theorem Everywhere.get? {v u : Json} (h : v.Everywhere p) {name : String}
    (found : v.get? name = some u) : u.Everywhere p := by
  cases v with
  | obj members => exact (everywhere_obj.mp h).2 (name, u) (Assoc.mem_of_lookup found)
  | _ => cases found

/-- The value is no object, or its members ascend by key. -/
def Ascends : Json → Prop
  | .obj members => Assoc.Sorted members
  | _ => True

/-- The value is no double. -/
def IsNoDouble : Json → Prop
  | .float _ => False
  | _ => True

/-- All objects of the value are in key order. -/
def IsSorted (v : Json) : Prop := v.Everywhere Ascends

/-- All numbers of the value are integers. -/
def IsExact (v : Json) : Prop := v.Everywhere IsNoDouble

theorem mkObj_of_sorted {members : List (String × Json)} (sorted : Assoc.Sorted members) :
    mkObj members = .obj members := by
  rw [mkObj, Assoc.ofList_of_sorted sorted]

/-! ## Nesting -/

mutual

/-- How deep lists and objects nest in the value. -/
def depth : Json → Nat
  | .arr items => itemsDepth items + 1
  | .obj members => membersDepth members + 1
  | .null | .bool _ | .int _ | .float _ | .str _ => 0

def itemsDepth : List Json → Nat
  | [] => 0
  | v :: rest => max (depth v) (itemsDepth rest)

def membersDepth : List (String × Json) → Nat
  | [] => 0
  | (_, v) :: rest => max (depth v) (membersDepth rest)

end

theorem depth_arr_le {items : List Json} {d : Nat} :
    (Json.arr items).depth ≤ d + 1 ↔ ∀ v ∈ items, v.depth ≤ d := by
  have items_le : itemsDepth items ≤ d ↔ ∀ v ∈ items, v.depth ≤ d := by
    induction items with
    | nil => simp [itemsDepth]
    | cons v rest ih => rw [itemsDepth, Nat.max_le, ih, List.forall_mem_cons]
  rw [depth, Nat.add_le_add_iff_right, items_le]

theorem depth_obj_le {members : List (String × Json)} {d : Nat} :
    (Json.obj members).depth ≤ d + 1 ↔ ∀ m ∈ members, m.2.depth ≤ d := by
  have members_le : membersDepth members ≤ d ↔ ∀ m ∈ members, m.2.depth ≤ d := by
    induction members with
    | nil => simp [membersDepth]
    | cons m rest ih => rw [membersDepth, Nat.max_le, ih, List.forall_mem_cons]
  rw [depth, Nat.add_le_add_iff_right, members_le]

/-- Induction on the values inside a value. -/
theorem induction {motive : Json → Prop} (null : motive .null) (bool : ∀ b, motive (.bool b))
    (int : ∀ n, motive (.int n)) (float : ∀ x, motive (.float x)) (str : ∀ s, motive (.str s))
    (arr : ∀ items, (∀ v ∈ items, motive v) → motive (.arr items))
    (obj : ∀ members, (∀ m ∈ members, motive m.2) → motive (.obj members)) (v : Json) :
    motive v := by
  match v with
  | .null => exact null
  | .bool b => exact bool b
  | .int n => exact int n
  | .float x => exact float x
  | .str s => exact str s
  | .arr items =>
      exact arr items fun u hu => induction null bool int float str arr obj u
  | .obj members =>
      exact obj members fun m hm => induction null bool int float str arr obj m.2
termination_by sizeOf v
decreasing_by
  · have := List.sizeOf_lt_of_mem hu
    simp only [Json.arr.sizeOf_spec]
    omega
  · have := List.sizeOf_lt_of_mem hm
    obtain ⟨k, u⟩ := m
    simp only [Json.obj.sizeOf_spec, Prod.mk.sizeOf_spec] at *
    omega

end Json

end Unsugar
