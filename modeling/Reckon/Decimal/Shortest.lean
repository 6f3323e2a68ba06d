import Reckon.Decimal.Basic

/-! The decimal with the fewest digits that is read as a given magnitude. -/

namespace Reckon.Decimal

/-- How many decimal digits a positive number has. Three tenths of the binary logarithm of a number
are below its decimal logarithm, so that many digits can be counted at once. -/
def digitCount (n : Nat) : Nat :=
  let counted := n.log2 * 3 / 10
  counted + (Nat.toDigits 10 (n / Nat.pow 10 counted)).length

/-- The place before the leading digit of a positive magnitude: the least `p` such that the
magnitude is below `10 ^ p`. The least magnitude is above `10 ^ (-324)`. -/
def leadingPlace (bits : Nat) : Int :=
  digitCount (Binary64.units bits * Nat.pow 10 324 / Binary64.one) - 324

/-- The two neighbours of a magnitude among the multiples of `10 ^ grid`, the closer one first.
At equal distance the upper one comes first. -/
def neighbours (bits : Nat) (grid : Int) : List Decimal :=
  let num := Binary64.units bits * Nat.pow 10 (-grid).toNat
  let den := Binary64.one * Nat.pow 10 grid.toNat
  let below : Decimal := ⟨num / den, grid⟩
  let above : Decimal := ⟨num / den + 1, grid⟩
  if 2 * (num % den) < den then [below, above] else [above, below]

/-- Every magnitude is a decimal, since a unit is `5 ^ 1074` times `10 ^ (-1074)`. -/
def exact (bits : Nat) : Decimal := ⟨Binary64.units bits * Nat.pow 5 1074, -1074⟩

/-- The closest of the decimals with the fewest digits, seventeen at most, that are read as the
magnitude. -/
def readBack? (bits : Nat) : Option Decimal :=
  let place := leadingPlace bits
  (List.range' 1 17).findSome? fun (count : Nat) =>
    (neighbours bits (place - count)).find? fun d => d.nearest == bits

def shortest (bits : Nat) : Decimal := (readBack? bits).getD (exact bits)

end Reckon.Decimal
