import Unsugar.Decimal.Binary

/-!
# The shortest decimal that reads back

All reals closer to a double than to its neighbours read back as it: an interval, whose ends belong
to it exactly if the mantissa is even. The multiples of `10 ^ k` form a grid; of the grids with a
point in the interval the coarsest is taken, and of its points there the one nearest to the double.
Where the double lies halfway between two such points, formats differ in which they take.
Only the two grid points around the double need a test, since the interval surrounds it.
-/

namespace Unsugar.Decimal

/-- A decimal `digits * 10 ^ exponent`. -/
structure Digits where
  digits : Nat
  exponent : Int
deriving DecidableEq, Repr

/-- The interval that reads back as a positive double, in quarters of its last place: the double is
`center`. Below a power of two the neighbours lie half as far. -/
structure Rounding where
  low : Nat
  center : Nat
  high : Nat
  closed : Bool
  exponent : Int

def Rounding.of (b : Binary) : Rounding :=
  let narrow := b.mantissa = implicitBit ∧ -1074 < b.exponent
  { low := 4 * b.mantissa - (if narrow then 1 else 2)
    center := 4 * b.mantissa
    high := 4 * b.mantissa + 2
    closed := b.mantissa % 2 = 0
    exponent := b.exponent - 2 }

/-- Whether a point lies in the interval; `point * unit` is compared with the ends times `scale`. -/
def Rounding.holds (r : Rounding) (scale unit point : Nat) : Bool :=
  if r.closed then r.low * scale ≤ point * unit && point * unit ≤ r.high * scale
  else r.low * scale < point * unit && point * unit < r.high * scale

/-- Which of two equally near points is taken. -/
inductive Tie where
  | toEven | up
deriving DecidableEq, Repr

/-- Whether a tie above `point` goes to `point` itself. -/
def Tie.keeps (tie : Tie) (point : Nat) : Bool :=
  match tie with
  | toEven => point % 2 = 0
  | up => false

/-- The point of the grid `10 ^ k` that reads back and is nearest to the double, if one reads back. -/
def Rounding.onGrid (r : Rounding) (tie : Tie) (k : Int) : Option Nat :=
  let two := powerOfTwo r.exponent
  let scale := two.1 * Nat.pow 10 (-k).toNat
  let unit := Nat.pow 10 k.toNat * two.2
  let below := r.center * scale / unit
  let distBelow := r.center * scale - below * unit
  let distAbove := (below + 1) * unit - r.center * scale
  match r.holds scale unit below, r.holds scale unit (below + 1) with
  | true, true =>
      if distBelow < distAbove ∨ (distBelow = distAbove ∧ tie.keeps below) then some below
      else some (below + 1)
  | true, false => some below
  | false, true => some (below + 1)
  | false, false => none

/-- The first hit on the grids `10 ^ k`, `10 ^ (k - 1)`, ... -/
def Rounding.search (r : Rounding) (tie : Tie) : Nat → Int → Digits
  | 0, k => ⟨0, k⟩
  | grids + 1, k =>
      match r.onGrid tie k with
      | some point => ⟨point, k⟩
      | none => r.search tie grids (k - 1)

/-- The shortest decimal of a positive double. The first grid is coarser than the double: its step
exceeds `2 ^ bits`, as 0.30103 exceeds the decimal logarithm of two by less than the rounding up
adds. Twenty grids on, seventeen digits are passed, which always suffice. -/
def shortest (tie : Tie) (b : Binary) : Digits :=
  let bits : Int := b.exponent + (b.mantissa.log2 + 1 : Nat)
  (Rounding.of b).search tie 24 ((bits * 30103).fdiv 100000 + 1)

end Unsugar.Decimal
