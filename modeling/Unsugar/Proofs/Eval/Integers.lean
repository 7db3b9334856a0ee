import Unsugar.Proofs.Eval.Frame
import Mathlib.Algebra.Ring.Int.Defs

/-!
# Integer arithmetic

Integers have 64 bits and operations wrap, so what an expression comes to is known only modulo
`2 ^ 64`. Sums, differences, products and negation respect that congruence, and nothing is lost by
wrapping on the way. Division does not respect it. It is exact or fails: a quotient that wrapped
would be that of the least integer and `-1`, which is refused along with the divisor zero.

Main statement: sums, differences and products are exact modulo `2 ^ 64`, and division truncates
exactly wherever it is defined (`integers_exact`).
-/

namespace Unsugar

namespace Expr

/-- The expression is made of integers, characters and the operators `+`, `-` and `*`, and comes to
the number if nothing wraps. -/
inductive Denotes : Expr → Int → Prop
  | integer (l : Loc) (n : Int64) : Denotes (.lit l (.integer n)) n.toInt
  | char (l : Loc) (c : Char) : Denotes (.lit l (.char c)) c.toNat
  | add (l : Loc) {a b : Expr} {m n : Int} :
      Denotes a m → Denotes b n → Denotes (.binOp l "+" a b) (m + n)
  | sub (l : Loc) {a b : Expr} {m n : Int} :
      Denotes a m → Denotes b n → Denotes (.binOp l "-" a b) (m - n)
  | mul (l : Loc) {a b : Expr} {m n : Int} :
      Denotes a m → Denotes b n → Denotes (.binOp l "*" a b) (m * n)
  | neg (l : Loc) {a : Expr} {m : Int} : Denotes a m → Denotes (.unOp l "-" a) (-m)
  | plus (l : Loc) {a : Expr} {m : Int} : Denotes a m → Denotes (.unOp l "+" a) m

/-! ## Operators on integers -/

theorem eval_binOp_of_eval (l : Loc) (op : String) {left right : Expr} {env env₁ env₂ : Env}
    {a b : Value} (hl : left.eval env = (.ok a, env₁)) (hr : right.eval env₁ = (.ok b, env₂)) :
    (binOp l op left right).eval env = (Value.binary op a b, env₂) := by
  rw [Expr.eval, Eval.bind_ok hl, Eval.bind_ok hr]
  rfl

theorem eval_unOp_of_eval (l : Loc) (op : String) {operand : Expr} {env env₁ : Env} {a : Value}
    (h : operand.eval env = (.ok a, env₁)) :
    (unOp l op operand).eval env = (Value.unary op a, env₁) := by
  rw [Expr.eval, Eval.bind_ok h]
  rfl

/-- What comes to a number is evaluated to the integer that the number wraps to. -/
theorem Denotes.eval {e : Expr} {n : Int} (h : e.Denotes n) (env : Env) :
    e.eval env = (.ok (.integer (Int64.ofInt n)), env) := by
  induction h with
  | integer l n =>
      rw [Int64.ofInt_toInt]
      rfl
  | char l c =>
      rw [Int64.ofInt_eq_ofNat]
      rfl
  | add l _ _ iha ihb =>
      rw [eval_binOp_of_eval l _ iha ihb, Int64.ofInt_add]
      rfl
  | sub l _ _ iha ihb =>
      rw [eval_binOp_of_eval l _ iha ihb, Int64.ofInt_sub]
      rfl
  | mul l _ _ iha ihb =>
      rw [eval_binOp_of_eval l _ iha ihb, Int64.ofInt_mul]
      rfl
  | neg l _ ih =>
      rw [eval_unOp_of_eval l _ ih, Int64.ofInt_neg]
      rfl
  | plus l _ ih =>
      rw [eval_unOp_of_eval l _ ih]
      rfl

end Expr

/-! ## Division -/

/-- A quotient and a remainder as truncating division has them. The remainder is smaller than the
divisor, and unless it is zero it has the sign of the dividend. -/
structure Truncates (dividend divisor quotient remainder : Int) : Prop where
  exact : dividend = quotient * divisor + remainder
  smaller : remainder.natAbs < divisor.natAbs
  sign : remainder = 0 ∨ remainder.sign = dividend.sign

theorem truncates_tdiv_tmod (a : Int) {b : Int} (h : b ≠ 0) :
    Truncates a b (a.tdiv b) (a.tmod b) where
  exact := (Int.tdiv_mul_add_tmod a b).symm
  smaller := by
    rw [Int.natAbs_tmod]
    exact Nat.mod_lt _ (Int.natAbs_pos.mpr h)
  sign := by
    by_cases divides : b ∣ a
    · exact .inl (Int.dvd_iff_tmod_eq_zero.mp divides)
    · exact .inr (by rw [Int.sign_tmod, if_neg divides])

/-- There is no quotient, or none that fits 64 bits. -/
def HasNoQuotient (a b : Int64) : Prop := b.toInt = 0 ∨ (a.toInt = -2 ^ 63 ∧ b.toInt = -1)

instance (a b : Int64) : Decidable (HasNoQuotient a b) := inferInstanceAs (Decidable (_ ∨ _))

section Quotient

variable {a b : Int64}

theorem hasNoQuotient_iff :
    HasNoQuotient a b ↔ ¬(b ≠ 0 ∧ ¬(a = Int64.minValue ∧ b = -1)) := by
  have zero : b.toInt = 0 ↔ b = 0 := by rw [← Int64.toInt_zero, Int64.toInt_inj]
  have least : a.toInt = -2 ^ 63 ↔ a = Int64.minValue := by
    rw [← Int64.toInt_minValue, Int64.toInt_inj]
  have minusOne : b.toInt = -1 ↔ b = -1 := Int64.toInt_inj (y := -1)
  rw [HasNoQuotient, zero, least, minusOne]
  tauto

/-- The quotient of 64 bits is the one of the numbers, which therefore did not wrap. -/
theorem toInt_div_of_quotient (h : ¬HasNoQuotient a b) : (a / b).toInt = a.toInt.tdiv b.toInt := by
  rw [hasNoQuotient_iff, not_not] at h
  by_cases least : a = Int64.minValue
  · exact Int64.toInt_div_of_ne_right a b fun minusOne => h.2 ⟨least, minusOne⟩
  · exact Int64.toInt_div_of_ne_left a b least

/-- Where division is defined, the operators `/` and `%` on 64 bits truncate. -/
theorem truncates_div_mod (h : ¬HasNoQuotient a b) :
    Truncates a.toInt b.toInt (a / b).toInt (a % b).toInt := by
  rw [toInt_div_of_quotient h, Int64.toInt_mod]
  exact truncates_tdiv_tmod _ fun zero => h (.inl zero)

variable (a b)

theorem Value.binary_div :
    binary "div" (integer a) (integer b) =
      if HasNoQuotient a b then .error (.badArg "div") else .ok (integer (a / b)) := by
  show (if b ≠ 0 ∧ ¬(a = Int64.minValue ∧ b = -1) then _ else _) = _
  simp only [hasNoQuotient_iff, ite_not]

theorem Value.binary_rem :
    binary "rem" (integer a) (integer b) =
      if HasNoQuotient a b then .error (.badArg "rem") else .ok (integer (a % b)) := by
  show (if b ≠ 0 ∧ ¬(a = Int64.minValue ∧ b = -1) then _ else _) = _
  simp only [hasNoQuotient_iff, ite_not]

end Quotient

/-- Integer arithmetic is exact modulo `2 ^ 64`. An expression made of integers, characters, sums,
differences, products and signs has the value of 64 bits that is congruent to the number it comes to,
and leaves the environment as it is. Division and remainder fail exactly if the divisor is zero or
the quotient would be `2 ^ 63`; else they are the quotient and the remainder of truncation, and
nothing wraps. -/
theorem integers_exact :
    (∀ (e : Expr) (n : Int) (env : Env), e.Denotes n → ∃ w : Int64,
      e.eval env = (.ok (.integer w), env) ∧
      -2 ^ 63 ≤ w.toInt ∧ w.toInt < 2 ^ 63 ∧ w.toInt % 2 ^ 64 = n % 2 ^ 64) ∧
    (∀ (l : Loc) (left right : Expr) (env env₁ env₂ : Env) (a b : Int64),
      left.eval env = (.ok (.integer a), env₁) → right.eval env₁ = (.ok (.integer b), env₂) →
      (∀ op ∈ ["div", "rem"],
        (Expr.binOp l op left right).eval env = (.error (.badArg op), env₂) ↔ HasNoQuotient a b) ∧
      (¬HasNoQuotient a b → ∃ q r : Int64,
        (Expr.binOp l "div" left right).eval env = (.ok (.integer q), env₂) ∧
        (Expr.binOp l "rem" left right).eval env = (.ok (.integer r), env₂) ∧
        Truncates a.toInt b.toInt q.toInt r.toInt)) := by
  constructor
  · intro e n env denotes
    refine ⟨Int64.ofInt n, denotes.eval env, Int64.le_toInt _, Int64.toInt_lt _, ?_⟩
    rw [Int64.toInt_ofInt]
    exact Int.bmod_emod
  · intro l left right env env₁ env₂ a b hl hr
    have div := Expr.eval_binOp_of_eval l "div" hl hr
    have rem := Expr.eval_binOp_of_eval l "rem" hl hr
    rw [Value.binary_div] at div
    rw [Value.binary_rem] at rem
    constructor
    · intro op known
      rcases List.mem_pair.mp known with rfl | rfl
      · rw [div]
        split <;> simp [*]
      · rw [rem]
        split <;> simp [*]
    · intro quotient
      rw [if_neg quotient] at div rem
      exact ⟨a / b, a % b, div, rem, truncates_div_mod quotient⟩

/-- The least integer with its sign changed, times a character: neither product nor sign fits. The
value is the least integer again, which can be divided by `10` but not by `-1`. -/
theorem integers_exact_wrapping :
    let integer (n : Int64) : Expr := .lit .unknown (.integer n)
    let product : Expr :=
      .binOp .unknown "*" (.unOp .unknown "-" (integer Int64.minValue)) (.lit .unknown (.char 'a'))
    product.Denotes (2 ^ 63 * 97) ∧
    (∃ w : Int64, product.eval [] = (.ok (.integer w), []) ∧
      -2 ^ 63 ≤ w.toInt ∧ w.toInt < 2 ^ 63 ∧ w.toInt % 2 ^ 64 = 2 ^ 63 * 97 % 2 ^ 64) ∧
    product.eval [] = (.ok (.integer Int64.minValue), []) ∧
    (Expr.binOp .unknown "rem" product (integer (-1))).eval [] = (.error (.badArg "rem"), []) ∧
    ∃ q r : Int64, (Expr.binOp .unknown "div" product (integer 10)).eval [] = (.ok (.integer q), []) ∧
      (Expr.binOp .unknown "rem" product (integer 10)).eval [] = (.ok (.integer r), []) ∧
      Truncates (-2 ^ 63) 10 q.toInt r.toInt := by
  intro integer product
  have denotes : product.Denotes (2 ^ 63 * 97) :=
    .mul _ (.neg _ (.integer _ Int64.minValue)) (.char _ 'a')
  have value : product.eval [] = (.ok (.integer Int64.minValue), []) := rfl
  refine ⟨denotes, integers_exact.1 product _ [] denotes, value, ?_, ?_⟩
  · refine ((integers_exact.2 .unknown product (integer (-1)) [] [] [] _ (-1) value rfl).1 "rem"
      (by simp)).mpr ?_
    decide
  · exact (integers_exact.2 .unknown product (integer 10) [] [] [] _ 10 value rfl).2 (by decide)

end Unsugar
