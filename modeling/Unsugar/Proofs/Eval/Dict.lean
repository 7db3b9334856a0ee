import Unsugar.Proofs.Assoc
import Unsugar.Proofs.Eval.Container
import Unsugar.Proofs.Text.ByteOrder
import Mathlib.Data.List.Dedup
import Mathlib.Data.List.Infix

/-!
# Dictionaries by their stores

A dictionary is what the stores made it, and of them it keeps only the last value of each key, in the
order of the keys. The order is an invariant of storing; with it, what is fetched decides about the
whole dictionary, so stores that leave the same values leave the same dictionary.

Main statement: `stores_canonical`.
-/

namespace Unsugar

namespace Dict

/-- The dictionary after stores in order. -/
def ofStores (stores : List (String × Value)) : Dict := overwrite new stores

/-- The value stored last under a key. -/
def lastStored? (key : String) (stores : List (String × Value)) : Option Value :=
  ((stores.filter (·.1 = key)).map (·.2)).getLast?

variable {key : String} {stores others : List (String × Value)}

theorem ofStores_snoc (stores : List (String × Value)) (key : String) (value : Value) :
    ofStores (stores ++ [(key, value)]) = store key value (ofStores stores) := by
  rw [ofStores, overwrite, List.foldl_append]
  rfl

theorem lastStored?_append (key : String) (earlier later : List (String × Value)) :
    lastStored? key (earlier ++ later) = (lastStored? key later).or (lastStored? key earlier) := by
  unfold lastStored?
  rw [List.filter_append, List.map_append, List.getLast?_append]

theorem lastStored?_singleton (key k : String) (value : Value) :
    lastStored? k [(key, value)] = if k = key then some value else none := by
  by_cases h : k = key <;> simp [lastStored?, h, eq_comm]

theorem lastStored?_cons (key k : String) (value : Value) (later : List (String × Value)) :
    lastStored? k ((key, value) :: later) =
      (lastStored? k later).or (if k = key then some value else none) := by
  rw [← List.singleton_append, lastStored?_append, lastStored?_singleton]

theorem lastStored?_eq_none : lastStored? key stores = none ↔ key ∉ stores.map (·.1) := by
  rw [lastStored?, List.getLast?_eq_none_iff, List.map_eq_nil_iff, List.filter_eq_nil_iff,
    List.mem_map]
  simp only [decide_eq_true_eq, not_exists, not_and]

/-! ## The invariant -/

theorem sorted_ofStores (stores : List (String × Value)) : Assoc.Sorted (ofStores stores) :=
  Assoc.sorted_ofList stores

theorem fetch?_ofStores (key : String) (stores : List (String × Value)) :
    fetch? key (ofStores stores) = lastStored? key stores := by
  induction stores using List.reverseRecOn with
  | nil => rfl
  | append_singleton stores s ih =>
      rw [ofStores_snoc, fetch?_store, ih, lastStored?_append, lastStored?_singleton]
      split <;> rfl

theorem mem_ofStores {value : Value} :
    (key, value) ∈ ofStores stores ↔ lastStored? key stores = some value := by
  rw [← fetch?_ofStores]
  exact (sorted_ofStores stores).mem_iff_lookup

/-- The keys of a dictionary are those that were stored. -/
theorem mem_keys_ofStores : key ∈ (ofStores stores).map (·.1) ↔ key ∈ stores.map (·.1) := by
  rw [List.mem_map]
  constructor
  · rintro ⟨⟨k, v⟩, entry, rfl⟩
    by_contra never
    rw [mem_ofStores, lastStored?_eq_none.mpr never] at entry
    cases entry
  · intro stored
    obtain ⟨v, last⟩ := Option.ne_none_iff_exists'.mp fun none => lastStored?_eq_none.mp none stored
    exact ⟨(key, v), mem_ofStores.mpr last, rfl⟩

theorem keys_perm (stores : List (String × Value)) :
    ((ofStores stores).map (·.1)).Perm (stores.map (·.1)).dedup := by
  rw [List.perm_ext_iff_of_nodup (sorted_ofStores stores).nodup_keys (List.nodup_dedup _)]
  intro key
  rw [mem_keys_ofStores, List.mem_dedup]

theorem length_ofStores (stores : List (String × Value)) :
    (ofStores stores).length = (stores.map (·.1)).dedup.length := by
  rw [← (keys_perm stores).length_eq, List.length_map]

/-! ## Equal dictionaries -/

theorem ofStores_eq_iff :
    ofStores stores = ofStores others ↔ ∀ k, lastStored? k stores = lastStored? k others := by
  constructor
  · intro same k
    rw [← fetch?_ofStores, same, fetch?_ofStores]
  · intro agree
    refine (sorted_ofStores stores).ext (sorted_ofStores others) fun k => ?_
    exact (fetch?_ofStores k stores).trans ((agree k).trans (fetch?_ofStores k others).symm)

/-- Stores under different keys commute. -/
theorem ofStores_swap {k k' : String} (ne : k ≠ k') (v w : Value)
    (earlier later : List (String × Value)) :
    ofStores (earlier ++ (k, v) :: (k', w) :: later) =
      ofStores (earlier ++ (k', w) :: (k, v) :: later) := by
  rw [ofStores_eq_iff]
  intro key
  simp only [lastStored?_append, lastStored?_cons, Option.or_assoc]
  by_cases h : key = k
  · subst h
    simp [ne]
  · simp [h]

/-- A store is absorbed by a later one under its key. -/
theorem ofStores_absorb (k : String) (v w : Value) (earlier between later : List (String × Value)) :
    ofStores (earlier ++ (k, v) :: (between ++ (k, w) :: later)) =
      ofStores (earlier ++ (between ++ (k, w) :: later)) := by
  rw [ofStores_eq_iff]
  intro key
  simp only [lastStored?_append, lastStored?_cons, Option.or_assoc]
  by_cases h : key = k
  · simp [h]
  · simp [h]

/-- What a dictionary has in common with the stores that made it. -/
structure Records (d : Dict) (stores : List (String × Value)) : Prop where
  /-- The keys are in the order of their bytes. -/
  ascending : (d.map (·.1)).Pairwise fun k k' => Text.bytes k < Text.bytes k'
  /-- Each key that was stored is there once, and no other key is. -/
  once (k : String) : (d.map (·.1)).count k = if k ∈ stores.map (·.1) then 1 else 0
  entries (k : String) (v : Value) : (k, v) ∈ d ↔ lastStored? k stores = some v
  /-- The size is the number of different keys. -/
  size : d.length = (stores.map (·.1)).dedup.length
  empty : d.isEmpty = true ↔ stores = []
  fetched (k : String) : fetch? k d = lastStored? k stores

theorem records_ofStores (stores : List (String × Value)) : (ofStores stores).Records stores where
  ascending :=
    List.pairwise_map.mpr ((sorted_ofStores stores).imp fun lt => Text.lt_iff_bytes_lt.mp lt)
  once k := by
    rw [(keys_perm stores).count_eq, List.count_dedup]
  entries _ _ := mem_ofStores
  size := length_ofStores stores
  empty := by
    rw [List.isEmpty_iff_length_eq_zero, length_ofStores, List.length_eq_zero_iff,
      List.dedup_eq_nil, List.map_eq_nil_iff]
  fetched k := fetch?_ofStores k stores

end Dict

namespace Value

theorem sameEntries_iff {d d' : Dict} :
    sameEntries d d' = true ↔ List.Forall₂ (fun e e' => e.1 = e'.1 ∧ e.2.same e'.2 = true) d d' := by
  induction d generalizing d' with
  | nil => cases d' <;> simp [sameEntries]
  | cons e rest ih =>
      cases d' with
      | nil => simp [sameEntries]
      | cons e' rest' => simp [sameEntries, ih, and_assoc]

/-- Dictionaries compare as equal if the values stored last do. -/
theorem same_dict_ofStores {stores others : List (String × Value)} :
    (dict (Dict.ofStores stores)).same (dict (Dict.ofStores others)) = true ↔
      ∀ k, Option.Rel (fun v w => v.same w = true)
        (Dict.lastStored? k stores) (Dict.lastStored? k others) := by
  have entries := Assoc.forall₂_iff_lookup (r := fun v w => same v w = true)
    (Dict.sorted_ofStores stores) (Dict.sorted_ofStores others)
  rw [same, sameEntries_iff, entries]
  simp only [← Dict.fetch?_ofStores]
  rfl

end Value

open Dict

/-- A dictionary is a canonical ordered map. It holds the keys that were stored, each once and in the
order of their bytes, with the value that was stored last. Stores that leave the same last values
leave the same dictionary, which is shown by the same text, and dictionaries compare as equal just if
these values do. So stores under different keys commute, and a store is absorbed by a later one under
its key. -/
theorem stores_canonical :
    (∀ stores, (ofStores stores).Records stores) ∧
    (∀ stores others, (∀ k, lastStored? k stores = lastStored? k others) →
      ofStores stores = ofStores others ∧
        (Value.dict (ofStores stores)).text = (Value.dict (ofStores others)).text) ∧
    (∀ stores others, (Value.dict (ofStores stores)).same (.dict (ofStores others)) = true ↔
      ∀ k, Option.Rel (fun v w => v.same w = true) (lastStored? k stores) (lastStored? k others)) ∧
    (∀ earlier later k k' v w, k ≠ k' → ofStores (earlier ++ (k, v) :: (k', w) :: later) =
      ofStores (earlier ++ (k', w) :: (k, v) :: later)) ∧
    (∀ earlier between later k v w, ofStores (earlier ++ (k, v) :: (between ++ (k, w) :: later)) =
      ofStores (earlier ++ (between ++ (k, w) :: later))) := by
  refine ⟨records_ofStores, fun stores others agree => ?_, fun _ _ => Value.same_dict_ofStores,
    fun earlier later k k' v w ne => ofStores_swap ne v w earlier later,
    fun earlier between later k v w => ofStores_absorb k v w earlier between later⟩
  have same := ofStores_eq_iff.mpr agree
  exact ⟨same, by rw [same]⟩

/-- Three stores and a fourth one that replaces the first; a key beyond ASCII comes last, as its
bytes do. -/
theorem stores_canonical_replaced :
    let one : Value := .integer 1
    let two : Value := .str "two"
    let stores := [("b", one), ("é", two), ("a", one), ("b", two)]
    let others := [("é", two), ("b", two), ("a", one)]
    (∀ k, lastStored? k stores = lastStored? k others) ∧
      (ofStores stores).Records stores ∧
      ofStores stores = ofStores others ∧
      (Value.dict (ofStores stores)).text = "[\x7ba,1\x7d,\x7bb,\"two\"\x7d,\x7bé,\"two\"\x7d]" ∧
      (Value.dict (ofStores others)).text = (Value.dict (ofStores stores)).text := by
  intro one two stores others
  have agree (k : String) : lastStored? k stores = lastStored? k others := by
    simp only [stores, others, lastStored?_cons]
    by_cases b : k = "b"
    · simp [b]
    · by_cases a : k = "a" <;> simp [a, b]
  obtain ⟨same, shown⟩ := stores_canonical.2.1 stores others agree
  exact ⟨agree, stores_canonical.1 stores, same, by decide +kernel, shown.symm⟩

end Unsugar
