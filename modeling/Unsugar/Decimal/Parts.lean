/-!
# Doubles from decimal parts

A decimal given as a significand and a power of ten becomes a double by one rounding of the
significand and one multiplication or division by a correctly rounded power of ten. This is fast and
nearly always exact to the last bit; where it is not, the result is still the one fixed here.
-/

namespace Unsugar.Decimal

/-- The double nearest to a power of ten. -/
def powerOfTen (k : Nat) : Float := Float.ofScientific 1 false k

/-- Division by `10 ^ k`, by `10 ^ 308` at a time while `k` is larger. -/
def scaleDown (x : Float) (k : Nat) : Float :=
  if k ≤ 308 then x / powerOfTen k
  else if x == 0 then x
  else scaleDown (x / powerOfTen 308) (k - 308)
termination_by k

/-- Multiplication by `10 ^ k`; none if the result is too large. -/
def scaleUp? (x : Float) (k : Nat) : Option Float :=
  if k ≤ 308 then
    let y := x * powerOfTen k
    if y.isInf then none else some y
  else if x == 0 then some x
  else none

/-- The double of a significand and an exponent of ten; none if it is too large. -/
def ofParts? (significand : UInt64) (exponent : Int) : Option Float :=
  let x := significand.toFloat
  if exponent < 0 then some (scaleDown x exponent.natAbs) else scaleUp? x exponent.toNat

end Unsugar.Decimal
