import Reckon.Token
import Reckon.Failure
import Reckon.Decimal.Basic

/-! Number literals while they are being read. -/

namespace Reckon

/-- An optional leading minus, digits and at most one point, read so far without the blanks between
them. -/
structure Literal where
  text : String
  span : Span
  hasDigit : Bool
  hasDot : Bool
  deriving DecidableEq, Repr

namespace Literal

def startingAt (offset : Nat) : Literal := ⟨"", ⟨offset, offset⟩, false, false⟩

def push (literal : Literal) (offset : Nat) (c : Char) : Literal where
  text := literal.text.push c
  span := ⟨literal.span.start, offset + c.utf8Size⟩
  hasDigit := literal.hasDigit || (c != '.' && c != '-')
  hasDot := literal.hasDot || c == '.'

/-- The finished number. A literal that spells none is refused at its first character. -/
def close (literal : Literal) : Except ParseError (Located Token) :=
  let first := literal.text.toList.head?.getD '.'
  let refused := ParseError.invalidCharacter first ⟨literal.span.start, literal.span.start + 1⟩
  if literal.hasDigit then
    match Decimal.read? literal.text.toList with
    | none => .error refused
    | some value =>
      if value.isFinite then .ok ⟨.num value, literal.span⟩
      else .error (.numberOutOfRange literal.span)
  else
    .error refused

end Literal

end Reckon
