import Unsugar.Decimal.Binary

/-!
# A fixed number of places

The exact value of a double rounded to a given number of decimal places; a tie goes to the even
last digit.
-/

namespace Unsugar.Decimal

/-- The quotient rounded to the nearest integer, a tie to the even one. -/
def roundDiv (num den : Nat) : Nat :=
  let q := num / den
  let twice := 2 * (num % den)
  if twice < den ∨ (twice = den ∧ q % 2 = 0) then q else q + 1

/-- The decimal digits of `n` with a point before the last `places`. -/
def withPlaces (places n : Nat) : List Char :=
  let frac := Nat.toDigits 10 (n % Nat.pow 10 places)
  Nat.toDigits 10 (n / Nat.pow 10 places) ++ '.' :: List.replicate (places - frac.length) '0' ++ frac

/-- A non-negative finite double with a fixed number of places. -/
def fixed (places : Nat) (x : Float) : List Char :=
  match Reading.ofFloat x with
  | .finite b =>
      let two := powerOfTwo b.exponent
      withPlaces places (roundDiv (b.mantissa * two.1 * Nat.pow 10 places) two.2)
  | .infinite _ | .notANumber => []

end Unsugar.Decimal
