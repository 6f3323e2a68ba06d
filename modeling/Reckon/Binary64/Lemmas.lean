import Reckon.Binary64.Basic

/-! Laws of rounding: a quotient in other terms rounds alike, and a magnitude rounds to itself. -/

namespace Reckon.Binary64

theorem one_pos : 0 < one := by
  unfold one
  apply Nat.pow_pos
  decide

theorem roundQuotient_mul (factor num den : Nat) (positive : 0 < factor) :
    roundQuotient (factor * num) (factor * den) = roundQuotient num den := by
  have less : 2 * (factor * (num % den)) < factor * den ↔ 2 * (num % den) < den := by
    rw [Nat.mul_left_comm]
    exact Nat.mul_lt_mul_left positive
  have equal : 2 * (factor * (num % den)) = factor * den ↔ 2 * (num % den) = den := by
    rw [Nat.mul_left_comm]
    exact Nat.mul_right_inj (Nat.ne_of_gt positive)
  simp only [roundQuotient, Nat.mul_mod_mul_left, Nat.mul_div_mul_left num den positive, less, equal]

theorem roundQuotient_exact (value den : Nat) (positive : 0 < den) :
    roundQuotient (value * den) den = value := by
  simp [roundQuotient, Nat.mul_div_cancel value positive, positive]

theorem nearest_mul (factor num den : Nat) (positive : 0 < factor) :
    nearest (factor * num) (factor * den) = nearest num den := by
  simp only [nearest, Nat.mul_assoc, Nat.mul_div_mul_left _ den positive,
    roundQuotient_mul factor _ _ positive]

theorem log2_shifted {fraction : Nat} (small : fraction < Nat.pow 2 52) (shift : Nat) :
    ((Nat.pow 2 52 + fraction) * Nat.pow 2 shift).log2 = 52 + shift := by
  simp only [Nat.pow_eq] at small ⊢
  rw [Nat.log2_eq_iff (Nat.ne_of_gt (Nat.mul_pos (by omega) (Nat.two_pow_pos shift)))]
  constructor
  · rw [Nat.pow_add]
    exact Nat.mul_le_mul_right _ (Nat.le_add_right _ _)
  · rw [show 52 + shift + 1 = 53 + shift by omega, Nat.pow_add]
    exact Nat.mul_lt_mul_of_pos_right (by omega) (Nat.two_pow_pos shift)

/-- A significand with all its places carries one into the exponent. -/
theorem carried {bits radix : Nat} (normal : bits / radix ≠ 0) :
    (bits / radix - 1) * radix + (radix + bits % radix) = bits := by
  rw [Nat.sub_one_mul, ← Nat.add_assoc,
    Nat.sub_add_cancel (Nat.le_mul_of_pos_left radix (Nat.pos_of_ne_zero normal))]
  exact Nat.div_add_mod' bits radix

theorem nearest_units {bits : Nat} (finite : bits < infinity) : nearest (units bits) one = bits := by
  have onePositive := one_pos
  simp only [nearest, Nat.pow_eq]
  generalize one = unit at onePositive ⊢
  have small : bits % 2 ^ 52 < 2 ^ 52 := Nat.mod_lt _ (by decide)
  have parts : bits / 2 ^ 52 * 2 ^ 52 + bits % 2 ^ 52 = bits := by omega
  rw [Nat.mul_div_cancel _ onePositive]
  by_cases subnormal : bits / 2 ^ 52 = 0
  · have value : units bits = bits := by simp only [units, Nat.pow_eq, subnormal, if_true]; omega
    have dropped : bits.log2 - 52 = 0 := by
      by_cases zero : bits = 0
      · subst zero; rfl
      · have := (Nat.log2_lt zero (k := 52)).2 (by omega)
        omega
    rw [value, dropped, Nat.pow_zero, Nat.mul_one, roundQuotient_exact bits unit onePositive,
      Nat.zero_mul, Nat.zero_add]
    exact Nat.min_eq_left (Nat.le_of_lt finite)
  · have value : units bits = (2 ^ 52 + bits % 2 ^ 52) * 2 ^ (bits / 2 ^ 52 - 1) := by
      simp only [units, Nat.pow_eq, subnormal, if_false]
    have dropped : (units bits).log2 - 52 = bits / 2 ^ 52 - 1 := by
      have log := log2_shifted small (bits / 2 ^ 52 - 1)
      simp only [Nat.pow_eq] at log
      rw [value, log]
      omega
    have scaled : units bits * unit =
        (2 ^ 52 + bits % 2 ^ 52) * (unit * 2 ^ (bits / 2 ^ 52 - 1)) := by
      rw [value, Nat.mul_assoc, Nat.mul_comm unit]
    rw [dropped, scaled,
      roundQuotient_exact _ _ (Nat.mul_pos onePositive (Nat.two_pow_pos _))]
    rw [carried subnormal]
    exact Nat.min_eq_left (Nat.le_of_lt finite)

end Reckon.Binary64
