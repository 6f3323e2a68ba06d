import Reckon.Operator

/-! The characters that an expression may hold. -/

namespace Reckon

/-- The six blanks of ASCII; a blank beyond ASCII is a foreign character. -/
def isBlank : Char → Bool
  | ' ' | '\t' | '\n' | '\r' | '\x0B' | '\x0C' => true
  | _ => false

def isAccepted (c : Char) : Bool :=
  c.isDigit || c == '.' || c == '(' || c == ')' || isOperator c

def isForeign (c : Char) : Bool := !isBlank c && !isAccepted c

end Reckon
