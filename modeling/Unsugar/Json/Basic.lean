import Unsugar.Assoc

/-!
# JSON values

A number written without point and exponent is kept as the integer it denotes while a 64-bit word,
signed or not, holds it; every other number is a double. The two are never confused: `1` is an
integer and `1.0` is not. Objects keep their members sorted by key: they are made by `mkObj`, and
reading keeps the order as an invariant, since a constructor cannot hold a proof about the keys of a
list it nests.
-/

namespace Unsugar

/-- An integer that fits a signed or an unsigned 64-bit word. -/
structure WideInt where
  val : Int
  least_le : -0x8000000000000000 ≤ val
  lt_limit : val < 0x10000000000000000
deriving DecidableEq, Repr

namespace WideInt

def ofInt64 (n : Int64) : WideInt :=
  ⟨n.toInt, Int64.le_toInt n, Int.lt_trans (Int64.toInt_lt n) (by decide)⟩

def ofUInt64 (n : UInt64) : WideInt :=
  ⟨n.toNat, by have := n.toNat_lt; omega, by have := n.toNat_lt; omega⟩

def ofUInt32 (n : UInt32) : WideInt :=
  ⟨n.toNat, by omega, by have := n.toNat_lt; omega⟩

def toInt64? (n : WideInt) : Option Int64 :=
  if n.val < 0x8000000000000000 then some (Int64.ofInt n.val) else none

def toUInt64? (n : WideInt) : Option UInt64 :=
  if 0 ≤ n.val then some (UInt64.ofNat n.val.toNat) else none

def toUInt32? (n : WideInt) : Option UInt32 :=
  if 0 ≤ n.val ∧ n.val < 0x100000000 then some (UInt32.ofNat n.val.toNat) else none

/-- The double nearest to the integer. The sign is set afterwards, since rounding does not depend on
it. -/
def toFloat (n : WideInt) : Float :=
  let magnitude := (UInt64.ofNat n.val.natAbs).toFloat
  if 0 ≤ n.val then magnitude else -magnitude

end WideInt

/-- A JSON value. The members of an object are an association list sorted by key. -/
inductive Json where
  | null
  | bool (value : Bool)
  | int (value : WideInt)
  | float (value : Float)
  | str (value : String)
  | arr (items : List Json)
  | obj (members : List (String × Json))
deriving Inhabited

namespace Json

/-- The object with the given members, of which the last one of a key counts. -/
def mkObj (members : List (String × Json)) : Json := .obj (Assoc.ofList members)

/-- A double as JSON; the values that are no numbers have no JSON form but null. -/
def ofFloat (x : Float) : Json := if x.isFinite then .float x else .null

def ofUInt32 (n : UInt32) : Json := .int (.ofUInt32 n)

/-- A member of an object; none for other values. -/
def get? (name : String) : Json → Option Json
  | .obj members => members.lookup name
  | _ => none

def toInt64? : Json → Option Int64
  | .int n => n.toInt64?
  | _ => none

def toUInt64? : Json → Option UInt64
  | .int n => n.toUInt64?
  | _ => none

def toUInt32? : Json → Option UInt32
  | .int n => n.toUInt32?
  | _ => none

def toFloat? : Json → Option Float
  | .int n => some n.toFloat
  | .float x => some x
  | _ => none

end Json

end Unsugar
