import Unsugar.Json.Fault
import Unsugar.Decimal.Parts

/-!
# Reading JSON numbers

The digits of a number are gathered into a 64-bit significand and a power of ten. Digits that no
longer fit only count for the power of ten before the point and not at all after it.
-/

namespace Unsugar.Json

def isDigit (c : Char) : Bool := '0' ≤ c && c ≤ '9'

def digitValue (c : Char) : Nat := c.toNat - '0'.toNat

/-- Digits added to a significand while it fits a 64-bit word: the significand, how many digits were
added, and what is left. -/
def gather (significand : Nat) : List Char → Nat × Nat × List Char
  | [] => (significand, 0, [])
  | c :: rest =>
      if isDigit c && significand * 10 + digitValue c < 0x10000000000000000 then
        let r := gather (significand * 10 + digitValue c) rest
        (r.1, r.2.1 + 1, r.2.2)
      else (significand, 0, c :: rest)

/-- A number so far: its digits count `significand * 10 ^ exponent`, exactly unless digits beyond a
64-bit word were dropped. -/
structure Significant where
  significand : Nat
  exponent : Int

/-- The digits of an exponent. Beyond 31 bits the digits left do not matter, and the rest at that
point is returned instead of a value. -/
def exponentDigits (value : Nat) : List Char → (Nat ⊕ List Char) × List Char
  | [] => (.inl value, [])
  | c :: rest =>
      if isDigit c then
        if value * 10 + digitValue c < 0x80000000 then exponentDigits (value * 10 + digitValue c) rest
        else (.inr rest, rest.dropWhile isDigit)
      else (.inl value, c :: rest)

/-- The number with its sign, as a double. -/
def floatOf (negative : Bool) (n : Significant) (rest : List Char) :
    Except Failure (Json × List Char) :=
  match Decimal.ofParts? (UInt64.ofNat n.significand) n.exponent with
  | some x => .ok (.float (if negative then -x else x), rest)
  | none => .error (faultBefore .numberTooLarge rest)

/-- What follows the letter of an exponent: a sign, if any, and at least one digit. -/
def exponentPart (negative : Bool) (n : Significant) (cs : List Char) :
    Except Failure (Json × List Char) :=
  let (down, cs) := match cs with
    | '+' :: rest => (false, rest)
    | '-' :: rest => (true, rest)
    | _ => (false, cs)
  match cs with
  | [] => .error ⟨.eofInValue, 0⟩
  | c :: rest =>
      if isDigit c then
        match exponentDigits (digitValue c) rest with
        | (.inl e, rest) =>
            floatOf negative { n with exponent := n.exponent + (if down then -(e : Int) else e) } rest
        | (.inr rest, after) =>
            if n.significand ≠ 0 ∧ !down then .error (faultBefore .numberTooLarge rest)
            else .ok (.float (if negative then -0.0 else 0.0), after)
      else .error (faultAt .badNumber (c :: rest))

/-- An exponent, if there is one. -/
def exponentOrEnd (negative : Bool) (n : Significant) (cs : List Char) :
    Except Failure (Json × List Char) :=
  match cs with
  | 'e' :: rest | 'E' :: rest => exponentPart negative n rest
  | _ => floatOf negative n cs

/-- What follows the point. Digits that no longer fit the significand are dropped. -/
def fractionPart (negative : Bool) (n : Significant) (cs : List Char) :
    Except Failure (Json × List Char) :=
  let (significand, count, rest) := gather n.significand cs
  let n : Significant := ⟨significand, n.exponent - count⟩
  match rest with
  | c :: _ =>
      if isDigit c then exponentOrEnd negative n (rest.dropWhile isDigit)
      else if count = 0 then .error (faultAt .badNumber rest)
      else exponentOrEnd negative n rest
  | [] => if count = 0 then .error ⟨.eofInValue, 0⟩ else exponentOrEnd negative n rest

/-- A number without point and exponent: an integer if a 64-bit word holds it. Zero with a minus sign
is a double, as no integer keeps the sign. -/
def integer (negative : Bool) (significand : Nat) : Json :=
  let v : Int := if negative then -significand else significand
  if h : -0x8000000000000000 ≤ v ∧ v < 0x10000000000000000
      ∧ ¬(negative = true ∧ significand = 0) then
    .int ⟨v, h.1, h.2.1⟩
  else
    let x := (UInt64.ofNat significand).toFloat
    .float (if negative then -x else x)

/-- What follows the leading digits. -/
def afterInteger (negative : Bool) (significand : Nat) (cs : List Char) :
    Except Failure (Json × List Char) :=
  match cs with
  | '.' :: rest => fractionPart negative ⟨significand, 0⟩ rest
  | 'e' :: rest | 'E' :: rest => exponentPart negative ⟨significand, 0⟩ rest
  | _ => .ok (integer negative significand, cs)

/-- What follows the leading digits that were gathered. More of them only raise the exponent. -/
def afterDigits (negative : Bool) (significand : Nat) (cs : List Char) :
    Except Failure (Json × List Char) :=
  match (cs.takeWhile isDigit).length, cs.dropWhile isDigit with
  | 0, _ => afterInteger negative significand cs
  | more + 1, '.' :: rest => fractionPart negative ⟨significand, more + 1⟩ rest
  | more + 1, rest => exponentOrEnd negative ⟨significand, more + 1⟩ rest

/-- A number without its sign. A leading zero stands alone. -/
def unsignedNumber (negative : Bool) (cs : List Char) : Except Failure (Json × List Char) :=
  match cs with
  | [] => .error ⟨.eofInValue, 0⟩
  | c :: rest =>
      if c = '0' then
        match rest with
        | d :: _ => if isDigit d then .error (faultAt .badNumber rest) else afterInteger negative 0 rest
        | [] => afterInteger negative 0 rest
      else if isDigit c then
        let (significand, _, rest) := gather (digitValue c) rest
        afterDigits negative significand rest
      else .error (faultAt .badNumber (c :: rest))

/-! ## A number is never empty -/

theorem length_gather_le (n : Nat) (cs : List Char) : (gather n cs).2.2.length ≤ cs.length := by
  induction cs generalizing n with
  | nil => simp [gather]
  | cons c cs ih =>
      simp only [gather]
      split
      · exact Nat.le_succ_of_le (ih _)
      · exact Nat.le_refl _

theorem length_dropDigits_le (cs : List Char) : (cs.dropWhile isDigit).length ≤ cs.length :=
  (List.dropWhile_suffix isDigit).length_le

theorem length_exponentDigits_le (n : Nat) (cs : List Char) :
    (exponentDigits n cs).2.length ≤ cs.length := by
  induction cs generalizing n with
  | nil => simp [exponentDigits]
  | cons c cs ih =>
      simp only [exponentDigits]
      split
      · split
        · exact Nat.le_succ_of_le (ih _)
        · exact Nat.le_succ_of_le (length_dropDigits_le cs)
      · exact Nat.le_refl _

theorem rest_of_floatOf {negative : Bool} {n : Significant} {cs rest : List Char} {v : Json}
    (h : floatOf negative n cs = .ok (v, rest)) : rest = cs := by
  unfold floatOf at h
  split at h <;> simp_all

theorem length_exponentPart_le {negative : Bool} {n : Significant} {cs rest : List Char} {v : Json}
    (h : exponentPart negative n cs = .ok (v, rest)) : rest.length ≤ cs.length := by
  have le := length_exponentDigits_le
  unfold exponentPart at h
  grind [rest_of_floatOf]

theorem length_exponentOrEnd_le {negative : Bool} {n : Significant} {cs rest : List Char} {v : Json}
    (h : exponentOrEnd negative n cs = .ok (v, rest)) : rest.length ≤ cs.length := by
  unfold exponentOrEnd at h
  split at h
  · exact Nat.le_succ_of_le (length_exponentPart_le h)
  · exact Nat.le_succ_of_le (length_exponentPart_le h)
  · exact Nat.le_of_eq (congrArg List.length (rest_of_floatOf h))

theorem length_fractionPart_le {negative : Bool} {n : Significant} {cs rest : List Char} {v : Json}
    (h : fractionPart negative n cs = .ok (v, rest)) : rest.length ≤ cs.length := by
  have le := length_gather_le n.significand cs
  have le' := length_dropDigits_le (gather n.significand cs).2.2
  unfold fractionPart at h
  repeat' split at h
  all_goals first
    | contradiction
    | (have le := length_exponentOrEnd_le h; grind)

theorem length_afterInteger_le {negative : Bool} {n : Nat} {cs rest : List Char} {v : Json}
    (h : afterInteger negative n cs = .ok (v, rest)) : rest.length ≤ cs.length := by
  unfold afterInteger at h
  split at h
  · exact Nat.le_succ_of_le (length_fractionPart_le h)
  · exact Nat.le_succ_of_le (length_exponentPart_le h)
  · exact Nat.le_succ_of_le (length_exponentPart_le h)
  · simp only [Except.ok.injEq, Prod.mk.injEq] at h
    exact Nat.le_of_eq (congrArg List.length h.2.symm)

theorem length_afterDigits_le {negative : Bool} {n : Nat} {cs rest : List Char} {v : Json}
    (h : afterDigits negative n cs = .ok (v, rest)) : rest.length ≤ cs.length := by
  have le := length_dropDigits_le cs
  unfold afterDigits at h
  split at h
  · exact length_afterInteger_le h
  · next hd => have := length_fractionPart_le h; rw [hd] at le; simp at le; omega
  · exact Nat.le_trans (length_exponentOrEnd_le h) le

theorem length_unsignedNumber_lt {negative : Bool} {cs rest : List Char} {v : Json}
    (h : unsignedNumber negative cs = .ok (v, rest)) : rest.length < cs.length := by
  unfold unsignedNumber at h
  cases cs with
  | nil => simp at h
  | cons c cs =>
      have le := length_gather_le (digitValue c) cs
      repeat' split at h
      all_goals first
        | contradiction
        | (have le := length_afterInteger_le h; grind)
        | (have le := length_afterDigits_le h; grind)

end Unsugar.Json
