import Reckon.Stack
import Reckon.Token
import Reckon.Failure

/-! From tokens to a listing in which every operator stands behind its operands. Parentheses vanish;
nothing else is checked here. -/

namespace Reckon.Postfix

/-- Tokens that are listed already, and those that wait for their right operand or their closing
parenthesis. -/
structure Conversion where
  listed : Array (Located Token)
  waiting : Stack (Located Token)
  depth : Nat

namespace Conversion

def empty : Conversion := ⟨#[], .empty, 0⟩

/-- Only operators of the table are carried out before an incoming one. -/
def precedes (incoming : Operator) (top : Located Token) : Bool :=
  match top.elem with
  | .op sym => (Operator.find? sym).any incoming.yieldsTo
  | _ => false

def notOpening (top : Located Token) : Bool := !top.elem.isOpening

/-- An operator outside the table has no precedence, so it waits on top of whatever waits. -/
def operator (conversion : Conversion) (sym : Char) (token : Located Token) : Conversion :=
  match Operator.find? sym with
  | none => { conversion with waiting := conversion.waiting.push token }
  | some incoming =>
    let (done, waiting) := conversion.waiting.popWhile (precedes incoming)
    { conversion with listed := conversion.listed ++ done, waiting := waiting.push token }

def opening (conversion : Conversion) (maxDepth : Nat) (token : Located Token) :
    Except ParseError Conversion :=
  if maxDepth ≤ conversion.depth then
    .error (.nestingTooDeep maxDepth token.span)
  else
    .ok { conversion with
      waiting := conversion.waiting.push token
      depth := conversion.depth + 1 }

def closing (conversion : Conversion) (token : Located Token) : Except ParseError Conversion :=
  let (inside, outside) := conversion.waiting.popWhile notOpening
  match outside.pop? with
  | none => .error (.unbalancedParentheses token.span)
  | some (_, waiting) => .ok ⟨conversion.listed ++ inside, waiting, conversion.depth - 1⟩

def accept (maxDepth : Nat) (conversion : Conversion) (token : Located Token) :
    Except ParseError Conversion :=
  match token.elem with
  | .num _ => .ok { conversion with listed := conversion.listed.push token }
  | .op sym => .ok (conversion.operator sym token)
  | .paren .opening => conversion.opening maxDepth token
  | .paren .closing => conversion.closing token

/-- Lists what still waits. Of several parentheses left open the last one is blamed. -/
def finish (conversion : Conversion) : Except ParseError Tokens :=
  let (rest, unclosed) := conversion.waiting.popWhile notOpening
  match unclosed.peek? with
  | none => .ok (conversion.listed ++ rest).toList
  | some token => .error (.unbalancedParentheses token.span)

end Conversion

def ofTokens (maxDepth : Nat) (tokens : Tokens) : Except ParseError Tokens := do
  let conversion ← tokens.foldlM (Conversion.accept maxDepth) Conversion.empty
  conversion.finish

end Reckon.Postfix
