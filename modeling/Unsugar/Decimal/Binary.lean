/-!
# Binary fractions

A finite double is a signed integer times a power of two. Every statement about its decimal text is
one about this pair, so the other modules work on it in exact integers.
-/

namespace Unsugar.Decimal

/-- The magnitude `mantissa * 2 ^ exponent` with a sign; zero keeps its sign. -/
structure Binary where
  negative : Bool
  mantissa : Nat
  exponent : Int
deriving DecidableEq, Repr

/-- What the bits of a double stand for. -/
inductive Reading where
  | finite (value : Binary)
  | infinite (negative : Bool)
  | notANumber
deriving DecidableEq, Repr

/-- The leading one of a mantissa, which is not stored: the bit above the fifty-two of the fraction. -/
def implicitBit : Nat := 0x10000000000000

/-- The bits of a double: a sign, eleven bits of exponent, fifty-two of fraction. The least exponent
marks numbers without the implicit leading one, the greatest those that are not finite. -/
def Reading.ofFloat (x : Float) : Reading :=
  let bits := x.toBits.toNat
  let negative := decide (0x8000000000000000 ≤ bits)
  let exponent := bits / implicitBit % 0x800
  let fraction := bits % implicitBit
  if exponent = 2047 then
    if fraction = 0 then .infinite negative else .notANumber
  else if exponent = 0 then .finite ⟨negative, fraction, -1074⟩
  else .finite ⟨negative, implicitBit + fraction, Int.ofNat exponent - 1075⟩

/-- The fraction `numerator / denominator` that equals `2 ^ e`. -/
def powerOfTwo (e : Int) : Nat × Nat := (Nat.pow 2 e.toNat, Nat.pow 2 (-e).toNat)

end Unsugar.Decimal
