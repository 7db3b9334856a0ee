import Unsugar.Interchange.Reader
import Unsugar.Proofs.Interchange.Node
import Mathlib.Algebra.Group.Int.Defs

/-!
# Errors point at the culprit

An error of reading says something about a value and gives the path to it. Both can be checked
against the value that was to be read, without the reader: the path is followed from the root, and
what is said is tested on the value found there (`ReadError.HoldsOf`).

The paths are put together on the way down, so the invariant is that a node stands where its path
leads (`Node.StandsIn`). Every way down keeps it, and every reader that starts at such a node fails
with errors that are true alone (`Truthful`), one rule for each accessor.

Main statement: whatever the value, an error of reading it names an existing place in it and holds
there (`errors_hold_where_they_point`).
-/

namespace Unsugar

open Interchange

/-! ## What an error says -/

namespace Expected

/-- The value is what a scalar field should have been. A natural number stands below the limit of
its field. -/
def IsMet (limit : Int) : Expected → Json → Prop
  | string, w => ∃ s, w = .str s
  | integer, w => ∃ n, w = .int n ∧ -2 ^ 63 ≤ n.val ∧ n.val < 2 ^ 63
  | number, w => (∃ n, w = .int n) ∨ ∃ x, w = .float x
  | natural, w => ∃ n, w = .int n ∧ 0 ≤ n.val ∧ n.val < limit
  | character, w => ∃ s, w = .str s ∧ s.length = 1

end Expected

/-- The limit of a natural number by the field it stands in: arities are words of 64 bits, lines of
32 bits. -/
def Path.limit (p : Path) : Int := if p.getLast? = some (.field "arity") then 2 ^ 64 else 2 ^ 32

theorem Path.limit_of_ne {p : Path} {name : String} (h : name ≠ "arity") :
    Path.limit (p ++ [.field name]) = 2 ^ 32 := by
  simp [limit, h]

/-- A line and a column. -/
def Json.IsLineAndColumn (w : Json) : Prop :=
  ∃ line column : WideInt, w = .arr [.int line, .int column] ∧
    (0 ≤ line.val ∧ line.val < 2 ^ 32) ∧ 0 ≤ column.val ∧ column.val < 2 ^ 32

namespace ReadError

/-- What the error says, tested on the value it points at. -/
def HoldsOf : ReadError → Json → Prop
  | text _, _ => False
  | expectedList _, w => ∀ items, w ≠ .arr items
  | expectedObject _, w => ∀ members, w ≠ .obj members
  | missingField _ name, w =>
      (∃ members, w = .obj members) ∧
        (w.get? name = none ∨ w.get? name = some .null ∨
          name ∈ ["node", "qualifier"] ∧ ∀ s, w.get? name ≠ some (.str s))
  | wrongType p expected, w => ¬expected.IsMet p.limit w
  | invalidLocation _, w => (∀ n, w ≠ .int n) ∧ (∀ x, w ≠ .float x) ∧ ¬w.IsLineAndColumn
  | unknownQualifier _ q, w =>
      w.get? "qualifier" = some (.str q) ∧ q ∉ ["generate", "b_generate", "filter"]

/-- The path of the error leads to a value inside `v`, and the error holds of it. -/
def IsTrueIn (e : ReadError) (v : Json) : Prop :=
  ∃ p w, e.path? = some p ∧ p.follow? v = some w ∧ e.HoldsOf w

end ReadError

/-! ## Standing where the path leads -/

theorem Path.follow?_append (p q : Path) (v : Json) :
    (p ++ q).follow? v = (p.follow? v).bind q.follow? := by
  induction p generalizing v with
  | nil => rfl
  | cons step p ih =>
      cases h : down? step v with
      | none => simp [follow?, h]
      | some w => simp [follow?, h, ih]

/-- The path of the node leads from the value to the node. -/
def Node.StandsIn (v : Json) (n : Node) : Prop := n.path.follow? v = some n.value

/-- A reading of a part of the value that fails, if at all, with an error that is true there. -/
def Truthful {α : Type} (v : Json) (r : Read α) : Prop := ∀ e, r = .error e → e.IsTrueIn v

namespace Truthful

variable {α β : Type} {v : Json} {x : Read α}

theorem ok (a : α) : Truthful v (.ok a : Read α) := by
  rintro e ⟨⟩

theorem bind {f : α → Read β} (first : Truthful v x) (next : ∀ a, x = .ok a → Truthful v (f a)) :
    Truthful v (x >>= f) := by
  cases x with
  | error e =>
      rintro e' ⟨⟩
      exact first e rfl
  | ok a => exact next a rfl

/-- One reading after another, whatever the first one read. -/
theorem seq {f : α → Read β} (first : Truthful v x) (next : ∀ a, Truthful v (f a)) :
    Truthful v (x >>= f) :=
  first.bind fun a _ => next a

theorem map {f : α → β} (first : Truthful v x) : Truthful v (f <$> x) := by
  cases x with
  | error e =>
      rintro e' ⟨⟩
      exact first e rfl
  | ok a => exact ok (f a)

end Truthful

namespace Node

variable {α : Type} {v : Json} {n : Node} {name : String}

theorem standsIn_root (v : Json) : (root v).StandsIn v := rfl

namespace StandsIn

/-- An error raised at a node is true if it holds of the node. -/
theorem error (stands : n.StandsIn v) {e : ReadError} (here : e.path? = some n.path)
    (holds : e.HoldsOf n.value) : Truthful v (.error e : Read α) := by
  rintro e' ⟨⟩
  exact ⟨n.path, n.value, here, stands, holds⟩

theorem below (stands : n.StandsIn v) {u : Json} (hn : n.value = u) {m : Node} {step : PathStep}
    (path : m.path = n.path ++ [step]) (down : Path.down? step u = some m.value) :
    m.StandsIn v := by
  rw [StandsIn, path, Path.follow?_append, stands, Option.bind_some, hn, Path.follow?, down]
  rfl

/-! ## Members -/

/-- A member stands under its name. -/
theorem member {m : n.Inner} (stands : n.StandsIn v) (h : n.member? name = .ok (some m)) :
    m.1.StandsIn v ∧ m.1.path = n.path ++ [.field name] := by
  unfold member? at h
  split at h
  · next members hn =>
      split at h
      · cases h
      · cases h
      · next w _ found =>
          cases h
          exact ⟨stands.below hn rfl found, rfl⟩
  · cases h

theorem member? (stands : n.StandsIn v) : Truthful v (n.member? name) := by
  unfold Node.member?
  split
  · split <;> exact .ok _
  · next other => exact stands.error rfl other

/-- Only an object has a member, null or not. -/
theorem missing (stands : n.StandsIn v) (h : n.member? name = .ok none) :
    Truthful v (.error (.missingField n.path name) : Read α) := by
  apply stands.error rfl
  unfold Node.member? at h
  split at h
  · next members hn =>
      rw [hn]
      refine ⟨⟨members, rfl⟩, ?_⟩
      split at h
      · next found => exact Or.inl found
      · next found => exact Or.inr (Or.inl found)
      · cases h
  · cases h

theorem field {f : n.Inner → Read α} (stands : n.StandsIn v)
    (read : ∀ m : n.Inner, m.1.StandsIn v → m.1.path = n.path ++ [.field name] →
      Truthful v (f m)) : Truthful v (n.field name f) := by
  apply stands.member?.bind
  intro o found
  cases o with
  | none => exact stands.missing found
  | some m =>
      obtain ⟨there, path⟩ := stands.member found
      exact read m there path

theorem fieldOpt {f : n.Inner → Read α} (stands : n.StandsIn v)
    (read : ∀ m : n.Inner, m.1.StandsIn v → Truthful v (f m)) :
    Truthful v (n.fieldOpt name f) := by
  apply stands.member?.bind
  intro o found
  cases o with
  | none => exact .ok _
  | some m => exact (read m (stands.member found).1).map

theorem tag? (stands : n.StandsIn v) : Truthful v (n.tag? name) := by
  unfold Node.tag?
  split
  · split <;> exact .ok _
  · next other => exact stands.error rfl other

/-- Only an object has a tag; one without it has none that is a string. -/
theorem untagged (stands : n.StandsIn v) (tagging : name ∈ ["node", "qualifier"])
    (h : n.tag? name = .ok none) : Truthful v (.error (.missingField n.path name) : Read α) := by
  apply stands.error rfl
  unfold Node.tag? at h
  split at h
  · next members hn =>
      rw [hn]
      refine ⟨⟨members, rfl⟩, Or.inr (Or.inr ⟨tagging, ?_⟩)⟩
      split at h
      · cases h
      · next other => exact other
  · cases h

/-! ## Items -/

/-- The items not yet read are those of the list from number `i` on. -/
theorem readItems {f : n.Inner → Read α} {vs : List Json} (stands : n.StandsIn v)
    (hn : n.value = .arr vs) (read : ∀ m : n.Inner, m.1.StandsIn v → Truthful v (f m)) (i : Nat)
    (rest : List Json) (lt : sizeOf rest < sizeOf n.value) (left : rest = vs.drop i) :
    Truthful v (n.readItems f i rest lt) := by
  induction rest generalizing i with
  | nil => exact .ok _
  | cons w rest ih =>
      have here : vs[i]? = some w := by
        rw [← List.head?_drop, ← left]
        rfl
      have later : rest = vs.drop (i + 1) := by
        rw [← List.tail_drop, ← left]
        rfl
      have there : StandsIn v ⟨w, n.path ++ [.index i]⟩ := stands.below hn rfl here
      exact .seq (read _ there) fun _ => .seq (ih _ _ later) fun _ => .ok _

theorem items {f : n.Inner → Read α} (stands : n.StandsIn v)
    (read : ∀ m : n.Inner, m.1.StandsIn v → Truthful v (f m)) : Truthful v (n.items f) := by
  unfold Node.items
  split
  · next vs hn => exact stands.readItems hn read 0 vs _ rfl
  · next other => exact stands.error rfl other

theorem innerItems {m : n.Inner} {f : n.Inner → Read α} (stands : m.1.StandsIn v)
    (read : ∀ k : n.Inner, k.1.StandsIn v → Truthful v (f k)) : Truthful v (m.items f) :=
  stands.items fun k => read (m.outward k)

theorem fieldItems {f : n.Inner → Read α} (stands : n.StandsIn v)
    (read : ∀ m : n.Inner, m.1.StandsIn v → Truthful v (f m)) :
    Truthful v (n.fieldItems name f) :=
  stands.field fun _ there _ => there.innerItems read

theorem fieldItemsOrNone {f : n.Inner → Read α} (stands : n.StandsIn v)
    (read : ∀ m : n.Inner, m.1.StandsIn v → Truthful v (f m)) :
    Truthful v (n.fieldItemsOrNone name f) :=
  .seq (stands.fieldOpt fun _ there => there.innerItems read) fun _ => .ok _

/-! ## Scalars -/

theorem string (stands : n.StandsIn v) : Truthful v n.string := by
  unfold Node.string
  split
  · exact .ok _
  · next other =>
      apply stands.error rfl
      rintro ⟨s, hs⟩
      exact other s hs

theorem scalar {view : Json → Option α} {expected : Expected} (stands : n.StandsIn v)
    (unmet : view n.value = none → ¬expected.IsMet n.path.limit n.value) :
    Truthful v (n.scalar view expected) := by
  unfold Node.scalar
  split
  · exact .ok _
  · next none => exact stands.error rfl (unmet none)

theorem int64 (stands : n.StandsIn v) : Truthful v n.int64 := by
  apply stands.scalar
  rintro none ⟨i, hi, -, small⟩
  rw [hi] at none
  simp only [Json.toInt64?, WideInt.toInt64?, ite_eq_right_iff, reduceCtorEq] at none
  exact none (by omega)

theorem float (stands : n.StandsIn v) : Truthful v n.float := by
  apply stands.scalar
  rintro none (⟨i, hi⟩ | ⟨x, hx⟩)
  · rw [hi] at none
    cases none
  · rw [hx] at none
    cases none

theorem uint32 (stands : n.StandsIn v) (line : n.path.limit = 2 ^ 32) : Truthful v n.uint32 := by
  apply stands.scalar
  rintro none ⟨i, hi, nonneg, small⟩
  rw [hi] at none
  simp only [Json.toUInt32?, WideInt.toUInt32?, ite_eq_right_iff, reduceCtorEq] at none
  exact none (by omega)

theorem uint64 (stands : n.StandsIn v) : Truthful v n.uint64 := by
  apply stands.scalar
  rintro none ⟨i, hi, nonneg, -⟩
  rw [hi] at none
  simp only [Json.toUInt64?, WideInt.toUInt64?, ite_eq_right_iff, reduceCtorEq] at none
  exact none nonneg

theorem char (stands : n.StandsIn v) : Truthful v n.char := by
  apply stands.string.bind
  intro s hs
  split
  · exact .ok _
  · next other =>
      apply stands.error rfl
      rintro ⟨t, ht, single⟩
      have same : n.value = .str s := by
        unfold Node.string at hs
        split at hs
        · next hn =>
            cases hs
            exact hn
        · cases hs
      rw [same] at ht
      cases ht
      rw [← String.length_toList] at single
      obtain ⟨c, hc⟩ := List.length_eq_one_iff.mp single
      exact other c hc

theorem stringField (stands : n.StandsIn v) : Truthful v (n.stringField name) :=
  stands.field fun _ there _ => there.string

theorem arity (stands : n.StandsIn v) : Truthful v (n.field name (·.1.uint64)) :=
  stands.field fun _ there _ => there.uint64

theorem line (stands : n.StandsIn v) (short : name ≠ "arity") :
    Truthful v (n.field name (·.1.uint32)) :=
  stands.field fun _ there path => there.uint32 (path ▸ Path.limit_of_ne short)

theorem loc (stands : n.StandsIn v) : Truthful v n.loc := by
  apply stands.field
  intro m there path
  have short : m.1.path.limit = 2 ^ 32 := path ▸ Path.limit_of_ne (by decide)
  split
  · exact (there.uint32 short).map
  · exact (there.uint32 short).map
  · next line column hm =>
      split
      · exact .ok _
      · next other =>
          apply there.error rfl
          rw [hm]
          refine ⟨by simp, by simp, ?_⟩
          rintro ⟨i, j, pair, ⟨hi, hi'⟩, hj, hj'⟩
          cases pair
          apply other (UInt32.ofNat i.val.toNat) (UInt32.ofNat j.val.toNat)
          · exact if_pos ⟨hi, hi'⟩
          · exact if_pos ⟨hj, hj'⟩
  · next noInt noFloat noPair =>
      apply there.error rfl
      refine ⟨noInt, noFloat, ?_⟩
      rintro ⟨i, j, pair, -⟩
      exact noPair _ _ pair

end StandsIn

/-! ## Nodes -/

/-- At the node, the readers of all sorts of parts are truthful. -/
structure Honest (v : Json) (n : Node) : Prop where
  expr : Truthful v (Interchange.expr n)
  clause : Truthful v (Interchange.clause n)
  segment : Truthful v (Interchange.segment n)
  qualifier : Truthful v (Interchange.qualifier n)
  recordField : Truthful v (Interchange.recordField n)
  entry : Truthful v (Interchange.entry n)
  after : Truthful v (Interchange.after n)

/-- The node stands in the value, and inside it all readers are truthful. -/
structure Grounded (v : Json) (n : Node) : Prop where
  stands : n.StandsIn v
  below : ∀ m : n.Inner, m.1.StandsIn v → m.1.Honest v

namespace Grounded

section Parts

variable (grounded : n.Grounded v)

include grounded

theorem exprField : Truthful v (n.field name fun m => Interchange.expr m.1) :=
  grounded.stands.field fun m there _ => (grounded.below m there).expr

theorem exprOpt : Truthful v (n.fieldOpt name fun m => Interchange.expr m.1) :=
  grounded.stands.fieldOpt fun m there => (grounded.below m there).expr

theorem exprs : Truthful v (n.fieldItems name fun m => Interchange.expr m.1) :=
  grounded.stands.fieldItems fun m there => (grounded.below m there).expr

theorem clauses : Truthful v (n.fieldItems name fun m => Interchange.clause m.1) :=
  grounded.stands.fieldItems fun m there => (grounded.below m there).clause

theorem clausesOrNone : Truthful v (n.fieldItemsOrNone name fun m => Interchange.clause m.1) :=
  grounded.stands.fieldItemsOrNone fun m there => (grounded.below m there).clause

theorem segments : Truthful v (n.fieldItems name fun m => Interchange.segment m.1) :=
  grounded.stands.fieldItems fun m there => (grounded.below m there).segment

theorem qualifiers : Truthful v (n.fieldItems name fun m => Interchange.qualifier m.1) :=
  grounded.stands.fieldItems fun m there => (grounded.below m there).qualifier

theorem recordFields : Truthful v (n.fieldItems name fun m => Interchange.recordField m.1) :=
  grounded.stands.fieldItems fun m there => (grounded.below m there).recordField

theorem entries : Truthful v (n.fieldItems name fun m => Interchange.entry m.1) :=
  grounded.stands.fieldItems fun m there => (grounded.below m there).entry

end Parts

theorem expr (grounded : n.Grounded v) : Truthful v (Interchange.expr n) := by
  have stands := grounded.stands
  unfold Interchange.expr
  apply stands.tag?.bind
  intro tag? tagged
  cases tag? with
  | none => exact stands.untagged (by decide) tagged
  | some tag =>
  simp only
  cases Kind.ofTag? tag with
  | none => exact .seq (stands.fieldOpt fun _ _ => stands.loc) fun _ => .ok _
  | some k =>
  -- In each arm the readings follow one another and end in the node that is made of them.
  cases k with
  | atom | string | var => exact .seq stands.loc fun _ => .seq stands.stringField fun _ => .ok _
  | integer =>
      exact .seq stands.loc fun _ => .seq (stands.field fun _ there _ => there.int64) fun _ =>
        .ok _
  | float =>
      exact .seq stands.loc fun _ => .seq (stands.field fun _ there _ => there.float) fun _ =>
        .ok _
  | char =>
      exact .seq (stands.field fun _ there _ => there.char) fun _ => .seq stands.loc fun _ =>
        .ok _
  | nil => exact .seq stands.loc fun _ => .ok _
  | tuple | block => exact .seq stands.loc fun _ => .seq grounded.exprs fun _ => .ok _
  | cons | remote | bind =>
      exact .seq stands.loc fun _ => .seq grounded.exprField fun _ =>
        .seq grounded.exprField fun _ => .ok _
  | bin => exact .seq stands.loc fun _ => .seq grounded.segments fun _ => .ok _
  | op =>
      refine .seq stands.stringField fun _ => stands.member?.bind fun operand? found => ?_
      cases operand? with
      | some m =>
          have there := (stands.member found).1
          exact .seq stands.loc fun _ => .seq (grounded.below m there).expr fun _ => .ok _
      | none =>
          exact .seq stands.loc fun _ => .seq grounded.exprField fun _ =>
            .seq grounded.exprField fun _ => .ok _
  | call =>
      exact .seq stands.loc fun _ => .seq grounded.exprField fun _ =>
        .seq grounded.exprs fun _ => .ok _
  | listComp | binComp =>
      exact .seq stands.loc fun _ => .seq grounded.exprField fun _ =>
        .seq grounded.qualifiers fun _ => .ok _
  | ifs | closure => exact .seq stands.loc fun _ => .seq grounded.clauses fun _ => .ok _
  | caseOf =>
      exact .seq stands.loc fun _ => .seq grounded.exprField fun _ =>
        .seq grounded.clauses fun _ => .ok _
  | tryOf =>
      have after : Truthful v (n.fieldItemsOrNone "after" fun m => Interchange.expr m.1) :=
        stands.fieldItemsOrNone fun m there => (grounded.below m there).expr
      exact .seq stands.loc fun _ => .seq grounded.exprs fun _ =>
        .seq grounded.clausesOrNone fun _ => .seq grounded.clausesOrNone fun _ =>
        .seq after fun _ => .ok _
  | catching => exact .seq stands.loc fun _ => .seq grounded.exprField fun _ => .ok _
  | receive =>
      have after : Truthful v (n.fieldOpt "after" fun m => Interchange.after m.1) :=
        stands.fieldOpt fun m there => (grounded.below m there).after
      exact .seq stands.loc fun _ => .seq grounded.clausesOrNone fun _ => .seq after fun _ =>
        .ok _
  | namedClosure =>
      exact .seq stands.loc fun _ => .seq stands.stringField fun _ =>
        .seq grounded.clauses fun _ => .ok _
  | funRef =>
      exact .seq stands.loc fun _ => .seq stands.stringField fun _ => .seq stands.arity fun _ =>
        .ok _
  | remoteFunRef =>
      exact .seq stands.loc fun _ => .seq grounded.exprField fun _ =>
        .seq grounded.exprField fun _ => .seq grounded.exprField fun _ => .ok _
  | record =>
      exact .seq stands.loc fun _ => .seq grounded.exprOpt fun _ => .seq stands.stringField fun _ =>
        .seq grounded.recordFields fun _ => .ok _
  | recordField =>
      exact .seq stands.loc fun _ => .seq grounded.exprField fun _ =>
        .seq stands.stringField fun _ => .seq stands.stringField fun _ => .ok _
  | recordIndex =>
      exact .seq stands.loc fun _ => .seq stands.stringField fun _ =>
        .seq stands.stringField fun _ => .ok _
  | map =>
      exact .seq stands.loc fun _ => .seq grounded.exprOpt fun _ => .seq grounded.entries fun _ =>
        .ok _
  | field =>
      exact .seq stands.loc fun _ => .seq grounded.exprOpt fun _ => .seq stands.stringField fun _ =>
        .ok _
  | exception =>
      exact .seq stands.loc fun _ => .seq grounded.exprField fun _ =>
        .seq grounded.exprField fun _ => .seq grounded.exprOpt fun _ => .ok _

theorem clause (grounded : n.Grounded v) : Truthful v (Interchange.clause n) := by
  have guards : Truthful v (n.fieldItemsOrNone "guards" fun m =>
      m.1.items fun k => Interchange.expr (m.outward k).1) :=
    grounded.stands.fieldItemsOrNone fun m there => there.items fun k inside =>
      (grounded.below (m.outward k) inside).expr
  unfold Interchange.clause
  exact .seq grounded.stands.loc fun _ => .seq grounded.exprs fun _ => .seq guards fun _ =>
    .seq grounded.exprs fun _ => .ok _

theorem segment (grounded : n.Grounded v) : Truthful v (Interchange.segment n) := by
  have types : Truthful v (n.fieldOpt "types" fun m => m.1.items fun k => k.1.string) :=
    grounded.stands.fieldOpt fun m there => there.items fun k inside => inside.string
  unfold Interchange.segment
  exact .seq grounded.stands.loc fun _ => .seq grounded.exprField fun _ =>
    .seq grounded.exprOpt fun _ => .seq types fun _ => .ok _

theorem qualifier (grounded : n.Grounded v) : Truthful v (Interchange.qualifier n) := by
  have stands := grounded.stands
  unfold Interchange.qualifier
  apply stands.tag?.bind
  intro tag? tagged
  split
  · exact .seq stands.loc fun _ => .seq grounded.exprField fun _ =>
      .seq grounded.exprField fun _ => .ok _
  · exact .seq stands.loc fun _ => .seq grounded.exprField fun _ =>
      .seq grounded.exprField fun _ => .ok _
  · exact .seq grounded.exprField fun _ => .ok _
  · next other noGenerate noBinGenerate noFilter =>
      apply stands.error rfl
      refine ⟨tag?_eq_ok.mp tagged, ?_⟩
      simp only [List.mem_cons, List.not_mem_nil, or_false, not_or]
      exact ⟨noGenerate, noBinGenerate, noFilter⟩
  · exact stands.untagged (by decide) tagged

theorem recordField (grounded : n.Grounded v) : Truthful v (Interchange.recordField n) := by
  unfold Interchange.recordField
  exact .seq grounded.stands.loc fun _ => .seq grounded.stands.stringField fun _ =>
    .seq grounded.exprField fun _ => .ok _

theorem entry (grounded : n.Grounded v) : Truthful v (Interchange.entry n) := by
  unfold Interchange.entry
  exact .seq grounded.stands.loc fun _ => .seq grounded.stands.stringField fun _ =>
    .seq grounded.exprField fun _ => .ok _

theorem after (grounded : n.Grounded v) : Truthful v (Interchange.after n) := by
  unfold Interchange.after
  exact .seq grounded.exprField fun _ => .seq grounded.exprs fun _ => .ok _

end Grounded

/-- A node that stands in the value is read truthfully, by induction on its size. -/
theorem StandsIn.honest {n : Node} (stands : n.StandsIn v) : n.Honest v := by
  have grounded : n.Grounded v := ⟨stands, fun m there => StandsIn.honest there⟩
  exact ⟨grounded.expr, grounded.clause, grounded.segment, grounded.qualifier,
    grounded.recordField, grounded.entry, grounded.after⟩
termination_by sizeOf n.value
decreasing_by
  exact m.lt

theorem StandsIn.form {n : Node} (stands : n.StandsIn v) : Truthful v (Interchange.form n) := by
  unfold Interchange.form
  split
  · exact .seq stands.loc fun _ => .seq stands.stringField fun _ =>
      .seq (stands.line (by decide)) fun _ => .ok _
  · have clauses : Truthful v (n.fieldItems "clauses" fun m => Interchange.clause m.1) :=
      stands.fieldItems fun m there => there.honest.clause
    exact .seq stands.loc fun _ => .seq stands.stringField fun _ => .seq stands.arity fun _ =>
      .seq clauses fun _ => .ok _
  · exact .seq stands.loc fun _ => .seq stands.stringField fun _ =>
      .seq (stands.fieldOpt fun _ _ => .ok _) fun _ => .ok _
  · exact .seq stands.loc fun _ => .ok _
  · exact .ok _

end Node

/-- Errors of reading are true and point at the culprit. Whatever value forms or an expression are
read from, an error has a path that leads to a value inside it, and it holds of that value. -/
theorem errors_hold_where_they_point (v : Json) (e : ReadError)
    (h : Form.listOfJson v = .error e ∨ Expr.ofJson v = .error e) :
    ∃ p w, e.path? = some p ∧ p.follow? v = some w ∧ e.HoldsOf w := by
  have root := Node.standsIn_root v
  rcases h with forms | expr
  · exact root.items (fun _ there => there.form) e forms
  · exact root.honest.expr e expr

/-- A call without a callee, in the body of a function. -/
theorem errors_hold_where_they_point_call :
    let line : Json := .ofUInt32 1
    let call : Json := .obj [("args", .arr []), ("loc", line), ("node", .str "call")]
    let clause : Json := .obj [("body", .arr [call]), ("loc", line), ("patterns", .arr [])]
    let unit : Json := .arr [.obj [("arity", .ofUInt32 0), ("clauses", .arr [clause]),
      ("form", .str "function"), ("loc", line), ("name", .str "f")]]
    let path : Path := [.index 0, .field "clauses", .index 0, .field "body", .index 0]
    Form.listOfJson unit = .error (.missingField path "function") ∧
      path.text = "$[0].clauses[0].body[0]" ∧
      ∃ p w, (ReadError.missingField path "function").path? = some p ∧ p.follow? unit = some w ∧
        (ReadError.missingField path "function").HoldsOf w := by
  intro line call clause unit path
  have there : Interchange.expr ⟨call, path⟩ = .error (.missingField path "function") := by
    rw [Interchange.expr]
    rfl
  -- The list that holds the call, and what is made of it, stand around it.
  have inBody : Interchange.clause ⟨clause, [.index 0, .field "clauses", .index 0]⟩ =
      .error (.missingField path "function") := by
    rw [Interchange.clause]
    exact congrArg (fun r : Read Expr =>
      (r >>= fun e => .ok [e]) >>= fun es => .ok (Clause.mk (.onLine 1) [] [] es)) there
  have h : Form.listOfJson unit = .error (.missingField path "function") :=
    congrArg (fun r : Read Clause =>
      ((r >>= fun c => .ok [c]) >>= fun cs => .ok (Form.function (.onLine 1) "f" 0 cs)) >>=
        fun f => .ok [f]) inBody
  exact ⟨h, by decide +kernel, errors_hold_where_they_point unit _ (Or.inl h)⟩

end Unsugar
