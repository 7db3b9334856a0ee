import Unsugar.Interchange.Error
import Unsugar.Loc

/-!
# Values with their paths

The reader of forms walks down a JSON value and reports errors by path, so it carries the path along.
Whatever it reaches from a node is smaller than the node; the type `Inner` records this, and each way
down takes the reader for what it finds as a function on `Inner`. An absent member and a null one are
the same.
-/

namespace Unsugar

/-- A value and its path from the root. -/
structure Node where
  value : Json
  path : Path

/-- The outcome of reading a part. -/
abbrev Read := Except ReadError

namespace Node

def root (value : Json) : Node := ⟨value, []⟩

/-- A node strictly inside another. -/
abbrev Inner (n : Node) := { m : Node // sizeOf m.value < sizeOf n.value }

theorem Inner.lt {n : Node} (m : n.Inner) : sizeOf m.1.value < sizeOf n.value := m.2

/-- What lies inside an inner node lies inside the outer one. -/
def Inner.outward {n : Node} (m : n.Inner) (k : m.1.Inner) : n.Inner :=
  ⟨k.1, Nat.lt_trans k.2 m.2⟩

theorem sizeOf_lookup_lt {name : String} {members : List (String × Json)} {v : Json}
    (h : members.lookup name = some v) : sizeOf v < sizeOf members := by
  have below := List.sizeOf_lt_of_mem (Assoc.mem_of_lookup h)
  rw [Prod.mk.sizeOf_spec] at below
  omega

/-! ## Members -/

/-- A member of an object, if it is there and not null. -/
def member? (n : Node) (name : String) : Read (Option n.Inner) :=
  match hn : n.value with
  | .obj members =>
      match hv : members.lookup name with
      | none | some .null => .ok none
      | some v =>
          .ok (some ⟨⟨v, n.path ++ [.field name]⟩, by
            have := sizeOf_lookup_lt hv; rw [hn]; simp; omega⟩)
  | _ => .error (.expectedObject n.path)

/-- A member read by `f`, which must be there. -/
def field {α : Type} (n : Node) (name : String) (f : n.Inner → Read α) : Read α := do
  match ← n.member? name with
  | some m => f m
  | none => .error (.missingField n.path name)

/-- A member read by `f`, if it is there. -/
def fieldOpt {α : Type} (n : Node) (name : String) (f : n.Inner → Read α) : Read (Option α) := do
  match ← n.member? name with
  | some m => some <$> f m
  | none => .ok none

/-- A member that is a string; other values count as absent. -/
def tag? (n : Node) (name : String) : Read (Option String) :=
  match n.value with
  | .obj members =>
      match members.lookup name with
      | some (.str s) => .ok (some s)
      | _ => .ok none
  | _ => .error (.expectedObject n.path)

/-! ## Items -/

/-- Reads the items of a list from number `i` on. -/
def readItems {α : Type} (n : Node) (f : n.Inner → Read α) :
    (i : Nat) → (items : List Json) → sizeOf items < sizeOf n.value → Read (List α)
  | _, [], _ => .ok []
  | i, v :: rest, h => do
      let x ← f ⟨⟨v, n.path ++ [.index i]⟩, by simp at h ⊢; omega⟩
      let xs ← readItems n f (i + 1) rest (by simp at h; omega)
      .ok (x :: xs)

/-- The items of a list, each read by `f`, in order. -/
def items {α : Type} (n : Node) (f : n.Inner → Read α) : Read (List α) :=
  match hn : n.value with
  | .arr vs => n.readItems f 0 vs (by rw [hn]; simp)
  | _ => .error (.expectedList n.path)

/-- The items of an inner list. -/
def Inner.items {α : Type} {n : Node} (m : n.Inner) (f : n.Inner → Read α) : Read (List α) :=
  m.1.items fun k => f (m.outward k)

/-- The items of a member, which must be there. -/
def fieldItems {α : Type} (n : Node) (name : String) (f : n.Inner → Read α) : Read (List α) :=
  n.field name fun m => m.items f

/-- The items of a member; an absent one has none. -/
def fieldItemsOrNone {α : Type} (n : Node) (name : String) (f : n.Inner → Read α) :
    Read (List α) := do
  return (← n.fieldOpt name fun m => m.items f).getD []

/-! ## Scalars -/

def string (n : Node) : Read String :=
  match n.value with
  | .str s => .ok s
  | _ => .error (.wrongType n.path .string)

/-- A scalar that a partial view of the value yields. -/
def scalar {α : Type} (n : Node) (view : Json → Option α) (expected : Expected) : Read α :=
  match view n.value with
  | some x => .ok x
  | none => .error (.wrongType n.path expected)

def int64 (n : Node) : Read Int64 := n.scalar Json.toInt64? .integer

def float (n : Node) : Read Float := n.scalar Json.toFloat? .number

def uint32 (n : Node) : Read UInt32 := n.scalar Json.toUInt32? .natural

def uint64 (n : Node) : Read UInt64 := n.scalar Json.toUInt64? .natural

/-- A string of exactly one character. -/
def char (n : Node) : Read Char := do
  match (← n.string).toList with
  | [c] => .ok c
  | _ => .error (.wrongType n.path .character)

def stringField (n : Node) (name : String) : Read String := n.field name (·.1.string)

/-- The location of a node: a line, or a line and a column. -/
def loc (n : Node) : Read Loc :=
  n.field "loc" fun m =>
    match m.1.value with
    | .int _ | .float _ => Loc.onLine <$> m.1.uint32
    | .arr [line, column] =>
        match line.toUInt32?, column.toUInt32? with
        | some l, some c => .ok ⟨l, some c⟩
        | _, _ => .error (.invalidLocation m.1.path)
    | _ => .error (.invalidLocation m.1.path)

end Node

end Unsugar
