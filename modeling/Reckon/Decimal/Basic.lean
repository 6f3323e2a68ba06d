import Reckon.Binary64.Basic

/-! Decimal numbers and the texts that spell them. -/

namespace Reckon

/-- The number `digits * 10 ^ exponent`. -/
structure Decimal where
  digits : Nat
  exponent : Int
  deriving DecidableEq, Repr

namespace Decimal

def numerator (d : Decimal) : Nat := d.digits * Nat.pow 10 d.exponent.toNat

def denominator (d : Decimal) : Nat := Nat.pow 10 (-d.exponent).toNat

def nearest (d : Decimal) : Nat := Binary64.nearest d.numerator d.denominator

def ofRow (row : List Char) : Nat := Nat.ofDigitChars 10 row 0

/-- Reads digits with at most one point, before, between or after them. -/
def ofChars? (text : List Char) : Option Decimal :=
  let whole := text.takeWhile Char.isDigit
  match text.dropWhile Char.isDigit with
  | [] => if whole.isEmpty then none else some ⟨ofRow whole, 0⟩
  | '.' :: fraction =>
    let row := whole ++ fraction
    if row.isEmpty || !fraction.all Char.isDigit then none
    else some ⟨ofRow row, -(fraction.length : Int)⟩
  | _ => none

/-- Reads a decimal with an optional minus in front as the nearest number; too large a decimal is
read as infinity. -/
def read? : List Char → Option Float
  | '-' :: text => (ofChars? text).map fun d => Binary64.toFloat true d.nearest
  | text => (ofChars? text).map fun d => Binary64.toFloat false d.nearest

end Decimal

end Reckon
