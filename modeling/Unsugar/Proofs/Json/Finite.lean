import Unsugar.Json.Basic
import Mathlib.Algebra.Group.Nat.Defs

/-!
# Finite numbers

Text holds no infinities, so all doubles of a value that was read are finite, and an integer of 64
bits is far too small to round to one that is not. The second fact is about the rounding of the
floating-point model: the exponent of a rounded integer stays far below the largest one.

Main statement: an integer is finite as a double (`WideInt.isFinite_toFloat`).
-/

namespace Unsugar

open Float.Model

/-! ## Packing -/

/-- A number that binary64 has the exponent for. -/
def IsRepresentable : UnpackedFloat → Prop
  | .zero _ => True
  | .finite _ _ e _ => e < 972
  | _ => False

/-- Only the largest exponent stands for what is not finite. -/
theorem isFinite_packComponents (s : UnpackedFloat.Sign) (e : BitVec 11) (m : BitVec 52)
    (h : e ≠ -1#11) :
    (UnpackedFloat.unpack .binary64 (UnpackedFloat.packComponents .binary64 s e m)).isFinite =
      true := by
  have exponent :
      UnpackedFloat.unpackExponent (UnpackedFloat.packComponents .binary64 s e m) = e :=
    UnpackedFloat.unpackExponent_packComponents
  revert exponent
  generalize UnpackedFloat.packComponents .binary64 s e m = bits
  intro exponent
  unfold UnpackedFloat.unpack
  rw [exponent]
  dsimp only
  rw [if_neg h]
  by_cases subnormal : e = 0#11
  · rw [if_pos subnormal]
    by_cases zero : UnpackedFloat.unpackMantissa bits = 0#52
    · rw [dif_pos zero]
      rfl
    · rw [dif_neg zero]
      rfl
  · rw [if_neg subnormal]
    rfl

theorem isFinite_pack {f : UnpackedFloat} (h : IsRepresentable f) :
    (Float.ofModel (pack f)).isFinite = true := by
  have unfolded : (Float.ofModel (pack f)).isFinite =
      (UnpackedFloat.unpack .binary64 (UnpackedFloat.pack .binary64 f)).isFinite := rfl
  rw [unfolded]
  cases f with
  | infinity s => cases h
  | notANumber => cases h
  | zero s => exact isFinite_packComponents s 0 0 (by decide)
  | finite s m e pos =>
      have bias : Format.binary64.exponentBias = 1023 := rfl
      have small :
          (e + (Format.binary64.exponentBias : Int) + ((52 : Nat) : Int)).toNat + 1 < 2 ^ 11 := by
        change e < 972 at h
        rw [bias]
        omega
      unfold UnpackedFloat.pack
      dsimp only
      rw [if_neg (Nat.not_le.mpr small)]
      split
      · apply isFinite_packComponents
        intro largest
        have value := congrArg BitVec.toNat largest
        rw [BitVec.toNat_ofNat, Nat.mod_eq_of_lt (by omega)] at value
        have : (-1#11).toNat = 2047 := rfl
        omega
      · exact isFinite_packComponents s 0 _ (by decide)

/-- What is unpacked from a finite double can be packed again. -/
theorem isRepresentable_unpack {x : Float.Model} (h : x.isFinite = true) :
    IsRepresentable x.unpack := by
  have bias : Format.binary64.exponentBias = 1023 := rfl
  have width :
      (@UnpackedFloat.unpackExponent .binary64 x.toBits.toBitVec).toNat < 2048 :=
    (@UnpackedFloat.unpackExponent .binary64 x.toBits.toBitVec).isLt
  unfold Float.Model.isFinite at h
  unfold Float.Model.unpack UnpackedFloat.unpack at h ⊢
  dsimp only at h ⊢
  by_cases largest : @UnpackedFloat.unpackExponent .binary64 x.toBits.toBitVec = -1#11
  · rw [if_pos largest] at h
    split at h <;> cases h
  · have exponent :
        (@UnpackedFloat.unpackExponent .binary64 x.toBits.toBitVec).toNat ≠ 2047 := by
      intro value
      exact largest (BitVec.eq_of_toNat_eq value)
    rw [if_neg largest]
    by_cases subnormal : @UnpackedFloat.unpackExponent .binary64 x.toBits.toBitVec = 0#11
    · rw [if_pos subnormal]
      by_cases zero : @UnpackedFloat.unpackMantissa .binary64 x.toBits.toBitVec = 0#52
      · rw [dif_pos zero]
        trivial
      · rw [dif_neg zero]
        have value := congrArg BitVec.toNat subnormal
        rw [BitVec.toNat_ofNat, Nat.zero_mod] at value
        change _ < (972 : Int)
        rw [bias, value]
        omega
    · rw [if_neg subnormal]
      change _ < (972 : Int)
      rw [bias]
      omega

theorem isFinite_neg {x : Float} (h : x.isFinite = true) : (-x).isFinite = true := by
  have representable : IsRepresentable x.toModel.unpack := isRepresentable_unpack h
  apply isFinite_pack
  revert representable
  cases x.toModel.unpack with
  | infinity s => exact id
  | notANumber => exact id
  | zero s => exact id
  | finite s m e pos => exact id

/-! ## Rounding -/

theorem targetExponent_binary64 (e : Int) :
    Format.binary64.targetExponent e = max (e - 53) (-1074) := rfl

/-- A mantissa gains no exponent from being shifted beyond its own length. -/
theorem shift_exponent_le (m : Nat) {e : Int} (a : UnpackedFloat.Accuracy) (h : -1074 ≤ e) :
    (UnpackedFloat.shiftToTargetExponent .binary64 m e a).2 ≤ m.log2 + e := by
  simp only [UnpackedFloat.shiftToTargetExponent, UnpackedFloat.shiftToExponent,
    targetExponent_binary64, totalExponent]
  omega

theorem le_shift_exponent (m : Nat) (e : Int) (a : UnpackedFloat.Accuracy) :
    e ≤ (UnpackedFloat.shiftToTargetExponent .binary64 m e a).2 := by
  simp only [UnpackedFloat.shiftToTargetExponent, UnpackedFloat.shiftToExponent]
  omega

theorem shiftRight_mantissa_le (em : UnpackedFloat.ExtendedMantissa) (k : Nat) :
    (em >>> k).mantissa ≤ em.mantissa := by
  induction k with
  | zero => exact Nat.le_refl _
  | succ k ih => exact Nat.le_trans (Nat.div_le_self _ 2) ih

theorem shift_mantissa_le (m : Nat) (e : Int) :
    (UnpackedFloat.shiftToTargetExponent .binary64 m e .exact).1.mantissa ≤ m :=
  shiftRight_mantissa_le _ _

theorem roundedMantissa_le (em : UnpackedFloat.ExtendedMantissa) :
    em.roundedMantissa ≤ em.mantissa + 1 := by
  rcases em with ⟨m, r, s⟩
  cases r <;> cases s <;>
    simp only [UnpackedFloat.ExtendedMantissa.roundedMantissa,
      UnpackedFloat.ExtendedMantissa.accuracy,
      UnpackedFloat.Accuracy.roundToNearestEven] <;> omega

theorem log2_lt_of_lt {m k : Nat} (pos : 0 < k) (h : m < 2 ^ k) : m.log2 < k := by
  rcases Nat.eq_zero_or_pos m with rfl | hm
  · simpa using pos
  · exact (Nat.log2_lt (Nat.ne_of_gt hm)).mpr h

/-- Rounding shifts twice, and each time the exponent rises by no more than the mantissa is long. -/
theorem isRepresentable_roundWithAccuracy (s : UnpackedFloat.Sign) {m : Nat} {e : Int}
    (length : m < 2 ^ 200) (low : -1074 ≤ e) (high : e ≤ 0) :
    IsRepresentable (UnpackedFloat.roundWithAccuracy .binary64 s m e .exact) := by
  have first := shift_exponent_le m .exact low
  have first' := le_shift_exponent m e .exact
  have mantissa := shift_mantissa_le m e
  unfold UnpackedFloat.roundWithAccuracy
  revert first first' mantissa
  rcases UnpackedFloat.shiftToTargetExponent .binary64 m e .exact with ⟨em, e₁⟩
  intro first first' mantissa
  dsimp only at first first' mantissa ⊢
  have second := shift_exponent_le em.roundedMantissa .exact (Int.le_trans low first')
  have short : m.log2 < 200 := log2_lt_of_lt (by decide) length
  have rounded : em.roundedMantissa.log2 < 201 := by
    apply log2_lt_of_lt (by decide)
    have := roundedMantissa_le em
    omega
  by_cases zero : (UnpackedFloat.shiftToTargetExponent .binary64 em.roundedMantissa e₁
      .exact).1.mantissa = 0
  · rw [dif_pos zero]
    trivial
  · rw [dif_neg zero]
    change _ < (972 : Int)
    omega

theorem isFinite_ofUInt64 (n : UInt64) : n.toFloat.isFinite = true := by
  apply isFinite_pack
  simp only [UnpackedFloat.ofUInt64, UnpackedFloat.ofNat, UnpackedFloat.ofInt,
    UnpackedFloat.normalize]
  split
  · next negative =>
      have := Int.compare_eq_lt.mp negative
      omega
  · trivial
  · -- Before rounding, the mantissa is lengthened by the digits that it lacks.
    have lacks : (0 - Format.binary64.targetExponent (totalExponent n.toNat 0)).toNat ≤ 52 := by
      rw [targetExponent_binary64, totalExponent]
      omega
    have size := n.toNat_lt
    simp only [UnpackedFloat.round, UnpackedFloat.decreaseExponent, Int.toNat_natCast]
    apply isRepresentable_roundWithAccuracy
    · rw [Nat.shiftLeft_eq]
      calc n.toNat * 2 ^ _ ≤ n.toNat * 2 ^ 52 :=
            Nat.mul_le_mul_left _ (Nat.pow_le_pow_right (by decide) lacks)
        _ < 2 ^ 200 := by omega
    · omega
    · omega

/-- An integer of 64 bits is finite as a double. -/
theorem WideInt.isFinite_toFloat (n : WideInt) : n.toFloat.isFinite = true := by
  have magnitude := isFinite_ofUInt64 (UInt64.ofNat n.val.natAbs)
  by_cases sign : 0 ≤ n.val
  · simpa only [WideInt.toFloat, if_pos sign] using magnitude
  · simpa only [WideInt.toFloat, if_neg sign] using isFinite_neg magnitude

end Unsugar
