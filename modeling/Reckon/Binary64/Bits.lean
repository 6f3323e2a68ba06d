import Mathlib
import Reckon.Binary64.Basic

/-! A number is given back by its sign and its magnitude. -/

namespace Reckon.Binary64

open Float.Model Float.Model.UnpackedFloat

theorem beq_zero_iff {x : Float} : (x == 0) = true ↔ x = 0 ∨ x = -0 := by
  rw [Float.beq_iff_ne_nan_and_eq]
  constructor
  · rintro ⟨_, _, zero | ⟨zero, _⟩ | ⟨negativeZero, _⟩⟩
    · exact .inl zero
    · exact .inl zero
    · exact .inr negativeZero
  · rintro (rfl | rfl) <;> decide +kernel

theorem toFloat_magnitude (x : Float) : toFloat (isNegative x) (magnitude x) = x := by
  have bound : x.toBits.toNat < 2 ^ 64 := x.toBits.toNat_lt
  have joined : (if isNegative x then signBit + magnitude x else magnitude x) = x.toBits.toNat := by
    unfold isNegative magnitude signBit
    rw [Nat.pow_eq]
    by_cases negative : 2 ^ 63 ≤ x.toBits.toNat
    · simp only [negative, decide_true, if_true]
      omega
    · simp only [negative, decide_false, Bool.false_eq_true, if_false]
      omega
  rw [toFloat, joined, UInt64.ofNat_toNat, Float.ofBits_toBits]

variable {bits : BitVec Format.binary64.numBits}

theorem unpackExponent_toNat : (unpackExponent bits).toNat = bits.toNat / 2 ^ 52 % 2 ^ 11 := by
  simp [unpackExponent, Nat.shiftRight_eq_div_pow]

theorem unpackExponent_of_isFinite
    (finite : (UnpackedFloat.unpack .binary64 bits).isFinite = true) :
    (unpackExponent bits).toNat ≠ 2047 := by
  intro ones
  have top : unpackExponent bits = -1#11 := BitVec.eq_of_toNat_eq ones
  rw [UnpackedFloat.unpack] at finite
  simp only at finite
  rw [if_pos top] at finite
  split at finite <;> cases finite

theorem magnitude_lt_of_isFinite {x : Float} (finite : x.isFinite = true) :
    magnitude x < infinity := by
  have exponent : x.toBits.toNat / 2 ^ 52 % 2 ^ 11 ≠ 2047 := by
    intro ones
    exact unpackExponent_of_isFinite finite (unpackExponent_toNat.trans ones)
  have bound : x.toBits.toNat < 2 ^ 64 := x.toBits.toNat_lt
  unfold magnitude signBit infinity
  rw [Nat.pow_eq, Nat.pow_eq]
  omega

end Reckon.Binary64
