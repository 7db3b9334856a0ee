/-!
# Sorted association lists

Objects, dictionaries and environments are all maps keyed by strings whose entries are shown in key
order. They are kept as association lists that ascend strictly by key; `insert` keeps the order, and
since strings compare by code points the order is also that of their bytes. Two maps with the same
entries are then the same list.

Main statements: a key that was set is found with its value and every other key is found as before
(`lookup_insert`), and what is built by insertion ascends (`sorted_ofList`).
-/

namespace Unsugar.Assoc

/-- The list with `key` set to `value`, in its place in the order. -/
def insert {α : Type u} (key : String) (value : α) : List (String × α) → List (String × α)
  | [] => [(key, value)]
  | (k, v) :: rest =>
      if key < k then (key, value) :: (k, v) :: rest
      else if key = k then (key, value) :: rest
      else (k, v) :: insert key value rest

/-- The map of a list of entries in any order; the last entry of a key counts. -/
def ofList {α : Type u} (entries : List (String × α)) : List (String × α) :=
  entries.foldl (fun map entry => insert entry.1 entry.2 map) []

/-- The keys ascend strictly. -/
def Sorted {α : Type u} (map : List (String × α)) : Prop :=
  map.Pairwise fun a b => a.1 < b.1

theorem mem_of_lookup {α : Type u} {key : String} {value : α} {map : List (String × α)}
    (h : map.lookup key = some value) : (key, value) ∈ map := by
  obtain ⟨before, after, rfl, -⟩ := List.lookup_eq_some_iff.mp h
  simp

theorem mem_insert {α : Type u} {key : String} {value : α} {map : List (String × α)}
    {e : String × α} (h : e ∈ insert key value map) : e = (key, value) ∨ e ∈ map := by
  induction map with
  | nil => simpa [insert] using h
  | cons m rest ih =>
      simp only [insert] at h
      grind

theorem Sorted.insert {α : Type u} {key : String} {value : α} {map : List (String × α)}
    (h : Sorted map) : Sorted (insert key value map) := by
  induction map with
  | nil => simp [Sorted, Assoc.insert]
  | cons m rest ih =>
      obtain ⟨k, v⟩ := m
      simp only [Sorted, List.pairwise_cons] at h ih ⊢
      simp only [Assoc.insert]
      split
      · next lt =>
          refine List.pairwise_cons.2 ⟨fun e he => ?_, List.pairwise_cons.2 h⟩
          rcases List.mem_cons.1 he with rfl | he
          · exact lt
          · exact String.lt_trans lt (h.1 e he)
      · next not_lt =>
          split
          · next eq => subst eq; exact List.pairwise_cons.2 h
          · next ne =>
              refine List.pairwise_cons.2 ⟨fun e he => ?_, ih h.2⟩
              rcases mem_insert he with rfl | he
              · exact String.not_le.1 fun le => ne (String.le_antisymm le (String.not_lt.1 not_lt))
              · exact h.1 e he

theorem sorted_ofList {α : Type u} (entries : List (String × α)) : Sorted (ofList entries) := by
  suffices ∀ map, Sorted map → Sorted (entries.foldl (fun m e => insert e.1 e.2 m) map) from
    this [] List.Pairwise.nil
  induction entries with
  | nil => exact fun _ h => h
  | cons e rest ih => exact fun map h => ih _ h.insert

theorem lookup_insert {α : Type u} (key : String) (value : α) (map : List (String × α))
    (k : String) :
    (insert key value map).lookup k = if k = key then some value else map.lookup k := by
  induction map with
  | nil => by_cases h : k = key <;> simp [insert, List.lookup_cons, h, beq_eq_false_iff_ne.2]
  | cons m rest ih =>
      obtain ⟨k', v⟩ := m
      by_cases h : k = key
      · subst h
        simp only [insert]
        split
        · simp
        · split
          · simp
          · next ne => simp [List.lookup_cons, beq_eq_false_iff_ne.2 ne, ih]
      · have hb : (k == key) = false := beq_eq_false_iff_ne.2 h
        simp only [insert, if_neg h] at ih ⊢
        split
        · simp [List.lookup_cons, hb]
        · split
          · next eq => subst eq; simp [List.lookup_cons, hb]
          · simp only [List.lookup_cons, ih]

end Unsugar.Assoc
