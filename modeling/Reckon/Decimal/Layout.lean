import Reckon.Decimal.Shortest

/-! Texts of numbers: the shortest digits, laid out by a few decisions. -/

namespace Reckon

structure Layout where
  /-- whether a whole number ends in a point and a zero -/
  pointZero : Bool
  /-- the places of the point, least and greatest, at which no exponent is written; `none` for all -/
  plainPlaces : Option (Int × Int)

namespace Layout

/-- Results never have an exponent, and whole ones have no point. -/
def result : Layout := ⟨false, none⟩

/-- Tokens in a record have an exponent below `10 ^ (-4)` and from `10 ^ 16` on. -/
def token : Layout := ⟨true, some (-3, 16)⟩

def isPlain (layout : Layout) (place : Int) : Bool :=
  match layout.plainPlaces with
  | none => true
  | some (least, greatest) => least ≤ place && place ≤ greatest

def zeros (count : Nat) : List Char := List.replicate count '0'

def wholeEnd (layout : Layout) : List Char := if layout.pointZero then ['.', '0'] else []

/-- Writes the digits with the point at the given place, counted from their left end. -/
def plain (layout : Layout) (digits : List Char) (place : Int) : List Char :=
  if place ≤ 0 then
    '0' :: '.' :: (zeros (-place).toNat ++ digits)
  else if digits.length ≤ place.toNat then
    digits ++ zeros (place.toNat - digits.length) ++ layout.wholeEnd
  else
    digits.take place.toNat ++ '.' :: digits.drop place.toNat

/-- Writes the digits with the point behind the first and the power of ten that makes up for it. -/
def scientific (digits : List Char) (place : Int) : List Char :=
  let power := (toString (place - 1)).toList
  match digits with
  | [lead] => lead :: 'e' :: power
  | lead :: rest => lead :: '.' :: (rest ++ 'e' :: power)
  | [] => []

def dropTrailingZeros (digits : List Char) : List Char :=
  (digits.reverse.dropWhile (· == '0')).reverse

def magnitude (layout : Layout) (bits : Nat) : List Char :=
  if bits = 0 then
    '0' :: layout.wholeEnd
  else
    let d := Decimal.shortest bits
    let digits := Nat.toDigits 10 d.digits
    let place : Int := digits.length + d.exponent
    let kept := dropTrailingZeros digits
    if layout.isPlain place then layout.plain kept place else scientific kept place

/-- The text of a number. The sign is written for zero and infinity too, but not for NaN. -/
def text (layout : Layout) (x : Float) : String :=
  let bits := Binary64.magnitude x
  if Binary64.infinity < bits then
    "NaN"
  else
    let body := if bits = Binary64.infinity then ['i', 'n', 'f'] else layout.magnitude bits
    String.ofList (if Binary64.isNegative x then '-' :: body else body)

end Layout

end Reckon
