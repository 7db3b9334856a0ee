import Unsugar.Decimal.Shortest

/-!
# Writing doubles

The digits of a double are fixed by `shortest` up to ties; those, and where the point stands, are a
matter of style. A style also says which exponents are written positionally and how an exponent looks. Both styles in use write at
least one digit after the point of a positional number.
-/

namespace Unsugar.Decimal

/-- The choices a format makes. The exponent of a decimal is that of its first digit. -/
structure Style where
  /-- The least exponent written positionally. -/
  least : Int
  /-- The first exponent too large to be written positionally. -/
  limit : Int
  /-- What stands before the digits of a positive exponent. -/
  plus : String
  /-- Which of two equally near decimals is written. -/
  tie : Tie

/-- JSON text: positional from `0.00001` to below `1e+16`, a tie to the even digit. -/
def Style.json : Style := ⟨-5, 16, "+", .toEven⟩

/-- Terms: positional from `0.0001` to below `1e16`, a tie to the larger magnitude. -/
def Style.term : Style := ⟨-4, 16, "", .up⟩

/-- Digits with the point after `whole` of them, filled up with zeros on either side. -/
def positional (digits : List Char) (whole : Int) : List Char :=
  if whole ≤ 0 then
    ['0', '.'] ++ List.replicate (-whole).toNat '0' ++ digits
  else if digits.length ≤ whole.toNat then
    digits ++ List.replicate (whole.toNat - digits.length) '0' ++ ['.', '0']
  else digits.take whole.toNat ++ '.' :: digits.drop whole.toNat

/-- Digits with the point after the first of them, and the exponent of that digit. -/
def scientific (style : Style) (digits : List Char) (exponent : Int) : List Char :=
  let mantissa := match digits with
    | d :: [] => [d]
    | d :: rest => d :: '.' :: rest
    | [] => []
  let sign := if exponent < 0 then "-" else style.plus
  mantissa ++ 'e' :: sign.toList ++ Nat.toDigits 10 exponent.natAbs

/-- The magnitude of a finite double. -/
def Style.magnitude (style : Style) (b : Binary) : List Char :=
  if b.mantissa = 0 then ['0', '.', '0']
  else
    let d := shortest style.tie b
    let digits := Nat.toDigits 10 d.digits
    let exponent := d.exponent + (digits.length : Int) - 1
    if style.least ≤ exponent ∧ exponent < style.limit then positional digits (exponent + 1)
    else scientific style digits exponent

/-- The text of a double. -/
def Style.write (style : Style) (x : Float) : String :=
  match Reading.ofFloat x with
  | .finite b =>
      String.ofList ((if b.negative then ['-'] else []) ++ style.magnitude b)
  | .infinite negative => if negative then "-inf" else "inf"
  | .notANumber => "NaN"

end Unsugar.Decimal
