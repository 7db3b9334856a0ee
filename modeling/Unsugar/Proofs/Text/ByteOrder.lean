import Mathlib.Data.String.Basic

/-!
# The order of bytes

Strings compare by code points, and that is also how their bytes compare. Of two characters the one
with the smaller code has the smaller encoding, and the encodings differ before either of them ends,
so whatever stands behind them has no say (`Precedes`).

Main statement: `lt_iff_bytes_lt`.
-/

namespace Unsugar.Text

/-- The bytes of a string. -/
def bytes (s : String) : List UInt8 := s.toUTF8.data.toList

theorem bytes_eq (s : String) : bytes s = s.toList.flatMap String.utf8EncodeChar := by
  have encoded : s.toUTF8 = s.toList.utf8Encode := by
    rw [String.toUTF8_eq_toByteArray]
    simp
  rw [bytes, encoded]
  simp [List.utf8Encode]

/-- The lists differ before either of them ends, and where they first do the byte of the first one is
smaller. -/
inductive Precedes : List UInt8 → List UInt8 → Prop
  | here {x y : UInt8} {xs ys : List UInt8} : x < y → Precedes (x :: xs) (y :: ys)
  | later {x : UInt8} {xs ys : List UInt8} : Precedes xs ys → Precedes (x :: xs) (x :: ys)

namespace Precedes

variable {xs ys : List UInt8}

theorem append_lt (h : Precedes xs ys) (rest rest' : List UInt8) : xs ++ rest < ys ++ rest' := by
  induction h with
  | here lt => exact List.cons_lt_cons_iff.mpr (.inl lt)
  | later _ ih => exact List.cons_lt_cons_iff.mpr (.inr ⟨rfl, ih⟩)

theorem cons_iff {x y : UInt8} :
    Precedes (x :: xs) (y :: ys) ↔ x < y ∨ x = y ∧ Precedes xs ys := by
  constructor
  · rintro (lt | h)
    · exact .inl lt
    · exact .inr ⟨rfl, h⟩
  · rintro (lt | ⟨rfl, h⟩)
    · exact .here lt
    · exact .later h

/-- A shorter encoding has the smaller first byte; encodings of one length have the digits of their
codes to the base 64 in the same places. -/
theorem utf8EncodeChar {c d : Char} (h : c < d) :
    Precedes (String.utf8EncodeChar c) (String.utf8EncodeChar d) := by
  have lt : c.val.toNat < d.val.toNat := h
  have valid : d.val.toNat < 0x110000 := by
    rcases d.valid with h | h <;> omega
  unfold String.utf8EncodeChar
  generalize c.val.toNat = m at *
  generalize d.val.toNat = n at *
  have thirdDigit (k : Nat) : k / 4096 = k / 64 / 64 := by rw [Nat.div_div_eq_div_mul]
  have fourthDigit (k : Nat) : k / 262144 = k / 64 / 64 / 64 := by
    rw [Nat.div_div_eq_div_mul, Nat.div_div_eq_div_mul]
  simp only [thirdDigit, fourthDigit]
  split_ifs
  all_goals
    simp (disch := omega) only [cons_iff, UInt8.lt_iff_toNat_lt, ← UInt8.toNat_inj,
      UInt8.toNat_ofNat', Nat.mod_eq_of_lt]
    omega

end Precedes

theorem flatMap_utf8EncodeChar_lt {cs ds : List Char} (h : cs < ds) :
    cs.flatMap String.utf8EncodeChar < ds.flatMap String.utf8EncodeChar := by
  induction h with
  | @nil d ds =>
      obtain ⟨x, xs, encoded⟩ := List.exists_cons_of_ne_nil (String.utf8EncodeChar_ne_nil (c := d))
      rw [List.flatMap_cons, encoded]
      exact List.Lex.nil
  | rel lt => exact (Precedes.utf8EncodeChar lt).append_lt _ _
  | cons _ ih => exact List.append_left_lt ih

/-- Strings are in the order of their bytes. -/
theorem lt_iff_bytes_lt {s t : String} : s < t ↔ bytes s < bytes t := by
  have mono {s t : String} (lt : s < t) : bytes s < bytes t := by
    rw [bytes_eq, bytes_eq]
    exact flatMap_utf8EncodeChar_lt lt
  constructor
  · exact mono
  · intro lt
    rcases lt_trichotomy s t with below | rfl | above
    · exact below
    · exact absurd lt (List.lt_irrefl _)
    · exact absurd lt (List.lt_asymm (mono above))

end Unsugar.Text
