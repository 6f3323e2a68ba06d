import Reckon.Span
import Reckon.Operator

/-! The tokens of an expression. A number carries its sign, so a minus token is always binary. -/

namespace Reckon

inductive Paren where
  | opening
  | closing
  deriving DecidableEq, Repr

def Paren.ofChar? : Char → Option Paren
  | '(' => some .opening
  | ')' => some .closing
  | _ => none

/-- An operator token may hold any character; those outside the table are refused when reckoned. -/
inductive Token where
  | num (value : Float)
  | op (sym : Char)
  | paren (side : Paren)
  deriving DecidableEq, Repr

namespace Token

def ofChar? (c : Char) : Option Token :=
  match Paren.ofChar? c with
  | some side => some (.paren side)
  | none => if isOperator c then some (.op c) else none

def isOp : Token → Bool
  | .op _ => true
  | _ => false

def isOpening : Token → Bool
  | .paren .opening => true
  | _ => false

end Token

abbrev Tokens := List (Located Token)

end Reckon
