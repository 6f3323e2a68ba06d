/-! Magnitudes of binary64 numbers as exact naturals, and rounding of a quotient to the nearest one.

A magnitude is given by its bits without the sign. Counted in units of `2 ^ (-1074)`, the least
positive magnitude, every finite one is a natural number. Powers are written `Nat.pow`, which is the
same function whatever power on monoids is in scope. -/

namespace Reckon.Binary64

def one : Nat := Nat.pow 2 1074

/-- The bits of infinity; larger ones are not numbers. -/
def infinity : Nat := 2047 * Nat.pow 2 52

/-- The value of finite bits, counted in units. -/
def units (bits : Nat) : Nat :=
  let field := bits / Nat.pow 2 52
  let fraction := bits % Nat.pow 2 52
  if field = 0 then fraction else (Nat.pow 2 52 + fraction) * Nat.pow 2 (field - 1)

/-- The nearest natural to a quotient; half a unit goes to the even neighbour. -/
def roundQuotient (num den : Nat) : Nat :=
  let below := num / den
  let excess := num % den
  if 2 * excess < den ∨ 2 * excess = den ∧ below % 2 = 0 then below else below + 1

/-- The bits of the magnitude nearest to a quotient. The significand of a quotient whose binary
logarithm in units exceeds 52 drops the low places, and one that rounds up to `2 ^ 53` carries
into the exponent by the same addition. -/
def nearest (num den : Nat) : Nat :=
  let scaled := num * one
  let dropped := (scaled / den).log2 - 52
  min (dropped * Nat.pow 2 52 + roundQuotient scaled (den * Nat.pow 2 dropped)) infinity

def signBit : Nat := Nat.pow 2 63

def toFloat (negative : Bool) (bits : Nat) : Float :=
  Float.ofBits (UInt64.ofNat (if negative then signBit + bits else bits))

def isNegative (x : Float) : Bool := signBit ≤ x.toBits.toNat

def magnitude (x : Float) : Nat := x.toBits.toNat % signBit

end Reckon.Binary64
