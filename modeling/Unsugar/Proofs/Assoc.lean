import Unsugar.Assoc
import Mathlib.Data.String.Basic
import Mathlib.Data.List.Forall2

/-!
# Sorted association lists by what is found in them

A sorted list holds a key at most once, so its entries are what lookups find. Two of them whose
lookups are related have the same keys and related values in the same places (`forall₂_iff_lookup`);
with the same values they are the same list (`Sorted.ext`).
-/

namespace Unsugar.Assoc

variable {α β : Type} {key : String} {value : α} {map : List (String × α)}

theorem lookup_eq_none_of_forall_lt (h : ∀ e ∈ map, key < e.1) : map.lookup key = none := by
  rw [List.lookup_eq_none_iff]
  intro e he
  exact bne_iff_ne.mpr (ne_of_lt (h e he))

namespace Sorted

theorem nodup_keys (sorted : Sorted map) : (map.map (·.1)).Nodup :=
  List.pairwise_map.mpr (sorted.imp fun lt => ne_of_lt lt)

theorem mem_iff_lookup (sorted : Sorted map) :
    (key, value) ∈ map ↔ map.lookup key = some value := by
  refine ⟨fun h => ?_, mem_of_lookup⟩
  induction map with
  | nil => cases h
  | cons e rest ih =>
      obtain ⟨least, sorted⟩ := List.pairwise_cons.mp sorted
      rcases List.mem_cons.mp h with rfl | h
      · exact List.lookup_cons_self
      · have ne : key ≠ e.1 := ne_of_gt (least _ h)
        rw [List.lookup_cons, beq_eq_false_iff_ne.mpr ne]
        exact ih sorted h

/-- Nothing is found before the first entry. -/
theorem le_of_lookup {k : String} (sorted : Sorted ((key, value) :: map))
    (found : (((key, value) :: map).lookup k).isSome) : key ≤ k := by
  obtain ⟨v, found⟩ := Option.isSome_iff_exists.mp found
  rcases List.mem_cons.mp (mem_of_lookup found) with first | later
  · exact le_of_eq (Prod.mk.inj first).1.symm
  · exact le_of_lt ((List.pairwise_cons.mp sorted).1 _ later)

end Sorted

section Related

variable {r : α → β → Prop}

theorem isSome_eq_of_rel {x : Option α} {y : Option β} (h : Option.Rel r x y) :
    x.isSome = y.isSome := by
  cases h <;> rfl

/-- Sorted lists have related entries in the same places just if lookups in them are related. -/
theorem forall₂_iff_lookup {map : List (String × α)} {map' : List (String × β)}
    (sorted : Sorted map) (sorted' : Sorted map') :
    List.Forall₂ (fun e e' => e.1 = e'.1 ∧ r e.2 e'.2) map map' ↔
      ∀ k, Option.Rel r (map.lookup k) (map'.lookup k) := by
  constructor
  · intro entries k
    induction entries with
    | nil => exact .none
    | @cons e e' rest rest' head _ ih =>
        obtain ⟨same, related⟩ := head
        rw [List.lookup_cons, List.lookup_cons, ← same]
        cases k == e.1 with
        | true => exact .some related
        | false => exact ih sorted.of_cons sorted'.of_cons
  · intro found
    induction map generalizing map' with
    | nil =>
        cases map' with
        | nil => exact .nil
        | cons e' rest' => simpa using isSome_eq_of_rel (found e'.1)
    | cons e rest ih =>
        cases map' with
        | nil => simpa using isSome_eq_of_rel (found e.1)
        | cons e' rest' =>
            obtain ⟨key, v⟩ := e
            obtain ⟨key', v'⟩ := e'
            -- Each list has an entry for the first key of the other one.
            have first : key ≤ key' :=
              sorted.le_of_lookup (by rw [isSome_eq_of_rel (found key'), List.lookup_cons_self]; rfl)
            have first' : key' ≤ key :=
              sorted'.le_of_lookup (by rw [← isSome_eq_of_rel (found key), List.lookup_cons_self]; rfl)
            obtain rfl : key = key' := le_antisymm first first'
            obtain ⟨least, sorted⟩ := List.pairwise_cons.mp sorted
            obtain ⟨least', sorted'⟩ := List.pairwise_cons.mp sorted'
            have head : r v v' := by
              have := found key
              rw [List.lookup_cons_self, List.lookup_cons_self] at this
              cases this with
              | some related => exact related
            have tail (k : String) : Option.Rel r (rest.lookup k) (rest'.lookup k) := by
              by_cases h : k = key
              · subst h
                rw [lookup_eq_none_of_forall_lt least, lookup_eq_none_of_forall_lt least']
                exact .none
              · have := found k
                rwa [List.lookup_cons, List.lookup_cons, beq_eq_false_iff_ne.mpr h] at this
            exact .cons ⟨rfl, head⟩ (ih sorted sorted' tail)

end Related

theorem Sorted.ext {map' : List (String × α)} (sorted : Sorted map) (sorted' : Sorted map')
    (h : ∀ k, map.lookup k = map'.lookup k) : map = map' := by
  have entries := (forall₂_iff_lookup (r := Eq) sorted sorted').mpr fun k => by
    rw [h]
    cases map'.lookup k with
    | none => exact .none
    | some v => exact .some rfl
  exact List.forall₂_eq_eq_eq ▸ entries.imp fun e e' same => Prod.ext same.1 same.2

end Unsugar.Assoc
