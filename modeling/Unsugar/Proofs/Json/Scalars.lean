import Unsugar.Json.Printer
import Unsugar.Json.Parser
import Unsugar.Proofs.Except
import Mathlib.Data.Nat.Digits.Defs

/-!
# Strings and integers as text

Every character that does not stand for itself in a string is written as an escape that the reader
takes for that character, and the digits of an integer are gathered to the integer they were made of
before they fill a 64-bit word. So strings and integers are read back from their texts
(`reads_stringText`, `reads_intText`).
-/

namespace Unsugar.Json

/-- A reader takes a value from a text and leaves a rest of it. -/
def Reads {α : Type} (read : Reader α) (cs : List Char) (a : α) (rest : List Char) : Prop :=
  ∃ h, read cs = .ok ⟨a, rest, h⟩

/-! ## Escapes -/

theorem hexValue?_digitChar {n : Nat} (h : n < 16) : hexValue? n.digitChar = some n := by
  revert n
  decide

/-- The text of a control that no letter stands for: its digits, filled up to four. -/
theorem control_digits {n : Nat} (h : n < 0x20) :
    (if n < 0x10 then "\\u000".toList ++ Nat.toDigits 16 n
      else "\\u00".toList ++ Nat.toDigits 16 n) =
    ['\\', 'u', '0', '0', (n / 16).digitChar, (n % 16).digitChar] := by
  revert n
  decide

/-- A code unit below the surrogates is taken for its character. -/
theorem reads_codeUnit {a b : Char} {m n : Nat} (ha : hexValue? a = some m)
    (hb : hexValue? b = some n) (hm : m < 16) (hn : n < 16) (rest : List Char) :
    Reads escape ('u' :: '0' :: '0' :: a :: b :: rest) (Char.ofNat (m * 16 + n)) rest := by
  have zero : hexValue? '0' = some 0 := by decide
  refine ⟨by simp; omega, ?_⟩
  simp only [escape, codeUnit, fourHex, zero, ha, hb, Except.ok_bind, Except.pure_eq_ok]
  rw [if_neg (by omega), if_neg (by omega)]
  simp [Step.after]

theorem reads_control {c : Char} (h : c.toNat < 0x20) (rest : List Char) :
    Reads escape ('u' :: '0' :: '0' :: (c.toNat / 16).digitChar :: (c.toNat % 16).digitChar :: rest)
      c rest := by
  have read := reads_codeUnit (hexValue?_digitChar (n := c.toNat / 16) (by omega))
    (hexValue?_digitChar (n := c.toNat % 16) (by omega)) (by omega) (by omega) rest
  rwa [Nat.div_add_mod', Char.ofNat_toNat] at read

/-! ## Strings -/

section Body

variable {c x : Char} {cs rest rest' : List Char} {xs : List Char}

theorem reads_escaped (first : Reads escape cs x rest) (next : Reads stringBody rest xs rest') :
    Reads stringBody ('\\' :: cs) (x :: xs) rest' := by
  obtain ⟨h, first⟩ := first
  obtain ⟨h', next⟩ := next
  refine ⟨Nat.lt_succ_of_lt (Nat.lt_trans h' h), ?_⟩
  rw [stringBody, if_neg (by decide), if_pos rfl, first, Except.ok_bind]
  dsimp only
  rw [next]
  rfl

theorem reads_plain (quote : c ≠ '"') (backslash : c ≠ '\\') (printable : ¬c.toNat < 0x20)
    (next : Reads stringBody rest xs rest') : Reads stringBody (c :: rest) (c :: xs) rest' := by
  obtain ⟨h', next⟩ := next
  refine ⟨Nat.lt_succ_of_lt h', ?_⟩
  rw [stringBody, if_neg quote, if_neg backslash, if_neg printable, next]
  rfl

/-- A character is read back from its text. -/
theorem reads_stringChar (next : Reads stringBody rest xs rest') :
    Reads stringBody (stringChar c ++ rest) (c :: xs) rest' := by
  unfold stringChar
  split
  case h_8 quote backslash _ _ _ _ _ =>
    by_cases control : c.toNat < 0x20
    · rw [if_pos control, control_digits control]
      exact reads_escaped (reads_control control rest) next
    · rw [if_neg (by omega), if_neg control]
      exact reads_plain quote backslash control next
  all_goals exact reads_escaped ⟨Nat.lt_succ_self _, rfl⟩ next

theorem reads_quote (rest : List Char) : Reads stringBody ('"' :: rest) [] rest := by
  refine ⟨Nat.lt_succ_self _, ?_⟩
  rw [stringBody, if_pos rfl]

end Body

theorem reads_stringBody (xs rest : List Char) :
    Reads stringBody (xs.flatMap stringChar ++ '"' :: rest) xs rest := by
  induction xs with
  | nil => exact reads_quote rest
  | cons c xs ih =>
      rw [List.flatMap_cons, List.append_assoc]
      exact reads_stringChar ih

/-- A string is read back from its text. -/
theorem reads_stringText (s : String) (rest : List Char) :
    Reads string (stringText s ++ rest) s rest := by
  obtain ⟨h, body⟩ := reads_stringBody s.toList rest
  have text : stringText s ++ rest = '"' :: (s.toList.flatMap stringChar ++ '"' :: rest) := by
    simp [stringText]
  rw [text]
  refine ⟨Nat.lt_succ_of_lt h, ?_⟩
  simp [string, body, Step.map, Step.after]

/-! ## Integers -/

/-- What may follow a value in a text over lines: a comma or a line feed, which belong to no
number. -/
def FollowsValue (rest : List Char) : Prop := ∃ c cs, rest = c :: cs ∧ (c = ',' ∨ c = '\n')

theorem isDigit_eq (c : Char) : isDigit c = c.isDigit := by
  simp [isDigit, Char.isDigit, Char.le_def]

theorem le_ofDigitChars (digits : List Char) (n : Nat) : n ≤ Nat.ofDigitChars 10 digits n := by
  induction digits generalizing n with
  | nil => simp
  | cons c digits ih =>
      rw [Nat.ofDigitChars_cons]
      exact Nat.le_trans (by omega) (ih _)

/-- Digits are gathered to the number they spell as long as a word holds it. -/
theorem gather_eq {digits rest : List Char} (follows : FollowsValue rest) {n : Nat}
    (all : ∀ c ∈ digits, isDigit c = true) (fits : Nat.ofDigitChars 10 digits n < 2 ^ 64) :
    gather n (digits ++ rest) = (Nat.ofDigitChars 10 digits n, digits.length, rest) := by
  induction digits generalizing n with
  | nil =>
      obtain ⟨c, cs, rfl, rfl | rfl⟩ := follows <;> simp [gather, isDigit]
  | cons c digits ih =>
      obtain ⟨here, all⟩ := List.forall_mem_cons.mp all
      rw [Nat.ofDigitChars_cons, Nat.mul_comm] at fits
      change Nat.ofDigitChars 10 digits (n * 10 + digitValue c) < 2 ^ 64 at fits
      have small : n * 10 + digitValue c < 0x10000000000000000 :=
        Nat.lt_of_le_of_lt (le_ofDigitChars digits _) fits
      have one : gather n (c :: (digits ++ rest)) =
          (Nat.ofDigitChars 10 digits (n * 10 + digitValue c), digits.length + 1, rest) := by
        rw [gather, here, Bool.true_and, if_pos (decide_eq_true small), ih all fits]
      rw [Nat.ofDigitChars_cons, Nat.mul_comm]
      exact one

theorem isDigit_of_mem_toDigits {n : Nat} : ∀ c ∈ Nat.toDigits 10 n, isDigit c = true := by
  intro c hc
  rw [isDigit_eq]
  exact Nat.isDigit_of_mem_toDigits (by decide) (by decide) hc

theorem digitChar_ne_zero {n : Nat} (small : n < 10) (h : n ≠ 0) : n.digitChar ≠ '0' := by
  revert n
  decide

/-- The digits of a number do not begin with a zero, unless it is zero. -/
theorem toDigits_eq_cons {n : Nat} (h : n ≠ 0) :
    ∃ c digits, Nat.toDigits 10 n = c :: digits ∧ c ≠ '0' := by
  induction n using Nat.strongRecOn with
  | ind n ih =>
      rw [Nat.toDigits_eq_if (by decide)]
      by_cases small : n < 10
      · rw [if_pos small]
        exact ⟨_, _, rfl, digitChar_ne_zero small h⟩
      · obtain ⟨c, digits, eq, nonzero⟩ := ih (n / 10) (by omega) (by omega)
        rw [if_neg small, eq]
        exact ⟨c, _, rfl, nonzero⟩

/-- Digits are read as the integer they spell. -/
theorem unsignedNumber_toDigits {n : Nat} (fits : n < 2 ^ 64) {rest : List Char}
    (follows : FollowsValue rest) (negative : Bool) :
    unsignedNumber negative (Nat.toDigits 10 n ++ rest) = .ok (integer negative n, rest) := by
  have ends (significand : Nat) :
      afterDigits negative significand rest = .ok (integer negative significand, rest) := by
    obtain ⟨c, cs, rfl, rfl | rfl⟩ := follows <;> rfl
  by_cases zero : n = 0
  · subst zero
    obtain ⟨c, cs, rfl, rfl | rfl⟩ := follows <;> rfl
  · obtain ⟨c, digits, eq, nonzero⟩ := toDigits_eq_cons zero
    have all : ∀ d ∈ c :: digits, isDigit d = true := eq ▸ isDigit_of_mem_toDigits
    have spelled : Nat.ofDigitChars 10 digits (digitValue c) = n := by
      have whole := Nat.ofDigitChars_ten_toDigits (n := n)
      rwa [eq, Nat.ofDigitChars_cons, Nat.mul_zero, Nat.zero_add] at whole
    obtain ⟨here, all⟩ := List.forall_mem_cons.mp all
    have gathered := gather_eq follows all (spelled.symm ▸ fits)
    rw [eq, List.cons_append, unsignedNumber.eq_def]
    dsimp only
    rw [if_neg nonzero, if_pos here, gathered, spelled]
    exact ends n

theorem integer_natAbs (n : WideInt) : integer (decide (n.val < 0)) n.val.natAbs = .int n := by
  have value : (if decide (n.val < 0) = true then -(n.val.natAbs : Int) else n.val.natAbs) =
      n.val := by
    by_cases negative : n.val < 0
    · rw [if_pos (decide_eq_true negative)]
      omega
    · rw [if_neg (by simpa using negative)]
      omega
  unfold integer
  simp only [value]
  rw [dif_pos ⟨n.least_le, n.lt_limit, by simp; omega⟩]

theorem reads_minus {cs rest : List Char} {v : Json}
    (read : unsignedNumber true cs = .ok (v, rest)) : Reads number ('-' :: cs) v rest := by
  refine ⟨Nat.lt_succ_of_lt (length_unsignedNumber_lt read), ?_⟩
  simp only [number]
  split
  · next v' rest' read' =>
      cases read.symm.trans read'
      rfl
  · next failure read' => cases read.symm.trans read'

theorem reads_digits {c : Char} {cs rest : List Char} {v : Json} (digit : isDigit c = true)
    (read : unsignedNumber false (c :: cs) = .ok (v, rest)) : Reads number (c :: cs) v rest := by
  refine ⟨length_unsignedNumber_lt read, ?_⟩
  have unsigned : ∀ rest, c :: cs = '-' :: rest → False := by
    rintro rest same
    cases same
    cases digit
  rw [number.eq_2 _ unsigned]
  split
  · next v' rest' read' =>
      cases read.symm.trans read'
      rfl
  · next failure read' => cases read.symm.trans read'

/-- An integer is read back from its text, which begins with a minus sign or a digit. -/
theorem reads_intText (n : WideInt) {rest : List Char} (follows : FollowsValue rest) :
    Reads number (intText n.val ++ rest) (.int n) rest ∧
      ∃ c cs, intText n.val = c :: cs ∧ (c = '-' ∨ isDigit c = true) := by
  have fits : n.val.natAbs < 2 ^ 64 := by
    have := n.least_le
    have := n.lt_limit
    omega
  have read := unsignedNumber_toDigits fits follows (decide (n.val < 0))
  rw [integer_natAbs] at read
  unfold intText
  by_cases negative : n.val < 0
  · rw [if_pos negative]
    rw [decide_eq_true negative] at read
    exact ⟨reads_minus read, _, _, rfl, .inl rfl⟩
  · rw [if_neg negative, List.nil_append]
    rw [decide_eq_false negative] at read
    cases digits : Nat.toDigits 10 n.val.natAbs with
    | nil => exact absurd digits Nat.toDigits_ne_nil
    | cons c cs =>
        have digit : isDigit c = true :=
          isDigit_of_mem_toDigits c (digits ▸ List.mem_cons_self)
        rw [digits] at read
        exact ⟨reads_digits digit read, c, cs, rfl, .inr digit⟩

end Unsugar.Json
