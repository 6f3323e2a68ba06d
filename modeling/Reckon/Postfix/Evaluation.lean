import Reckon.Stack
import Reckon.Token
import Reckon.Failure

/-! The value of a postfix listing. -/

namespace Reckon.Postfix

/-- Carries out one operator. Both zeros are refused as divisors. -/
def apply (sym : Char) (left right : Float) (span : Span) : Except EvalError Float :=
  match sym with
  | '+' => .ok (left + right)
  | '-' => .ok (left - right)
  | '*' => .ok (left * right)
  | '/' => if right == 0 then .error (.divisionByZero span) else .ok (left / right)
  | '^' => .ok (left.pow right)
  | _ => .error (.unsupportedOperator sym span)

/-- Takes one token. A missing operand is found before the operator is looked up. -/
def reckon (values : Stack Float) (token : Located Token) : Except EvalError (Stack Float) :=
  match token.elem, values.items with
  | .num value, _ => .ok (values.push value)
  | .op sym, right :: left :: below =>
    (apply sym left right token.span).map fun value => ⟨value :: below⟩
  | .op sym, _ => .error (.insufficientOperands sym token.span)
  | .paren _, _ => .error (.strayParenthesis token.span)

def result (values : Stack Float) : Except EvalError Float :=
  match values.items with
  | [value] => .ok value
  | items => .error (.malformedExpression items.length)

def evaluate (listing : Tokens) : Except EvalError Float := do
  let values ← listing.foldlM reckon Stack.empty
  result values

end Reckon.Postfix
