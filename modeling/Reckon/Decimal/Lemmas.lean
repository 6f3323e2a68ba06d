import Reckon.Binary64.Lemmas
import Reckon.Decimal.Shortest

/-! The decimal chosen for a finite magnitude is read as that magnitude. -/

namespace Reckon.Decimal

theorem nearest_exact {bits : Nat} (finite : bits < Binary64.infinity) :
    (exact bits).nearest = bits := by
  have numerator : (exact bits).numerator = Nat.pow 5 1074 * Binary64.units bits := by
    simp only [exact, Decimal.numerator]
    generalize Nat.pow 5 1074 = fives
    exact (Nat.mul_one _).trans (Nat.mul_comm _ _)
  have denominator : (exact bits).denominator = Nat.pow 5 1074 * Binary64.one := by
    have places : (-(-1074 : Int)).toNat = 1074 := rfl
    unfold exact Decimal.denominator Binary64.one
    rw [places]
    generalize 1074 = places
    exact Nat.mul_pow 5 2 places
  have positive : 0 < Nat.pow 5 1074 := by
    apply Nat.pow_pos
    decide
  generalize Nat.pow 5 1074 = fives at numerator denominator positive
  rw [nearest, numerator, denominator, Binary64.nearest_mul _ _ _ positive,
    Binary64.nearest_units finite]

theorem nearest_of_readBack? {bits : Nat} {d : Decimal} (found : readBack? bits = some d) :
    d.nearest = bits := by
  obtain ⟨count, _, closest⟩ := List.exists_of_findSome?_eq_some found
  have same := List.find?_some closest
  simp only [beq_iff_eq] at same
  exact same

theorem nearest_shortest {bits : Nat} (finite : bits < Binary64.infinity) :
    (shortest bits).nearest = bits := by
  unfold shortest
  cases search : readBack? bits with
  | none => rw [Option.getD_none, nearest_exact finite]
  | some d => rw [Option.getD_some, nearest_of_readBack? search]

end Reckon.Decimal
