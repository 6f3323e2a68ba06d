import Reckon.Span
import Reckon.Text.Quoted

/-! The reasons why an expression has no value. -/

namespace Reckon

inductive ParseError where
  | invalidCharacter (found : Char) (span : Span)
  | unbalancedParentheses (span : Span)
  | numberOutOfRange (span : Span)
  | nestingTooDeep (max : Nat) (span : Span)
  | inputTooLong (length max : Nat)
  deriving DecidableEq, Repr

inductive EvalError where
  | insufficientOperands (op : Char) (span : Span)
  | divisionByZero (span : Span)
  | unsupportedOperator (op : Char) (span : Span)
  | malformedExpression (values : Nat)
  | strayParenthesis (span : Span)
  deriving DecidableEq, Repr

inductive Failure where
  | parse (error : ParseError)
  | eval (error : EvalError)
  deriving DecidableEq, Repr

namespace ParseError

def span? : ParseError → Option Span
  | invalidCharacter _ span => some span
  | unbalancedParentheses span => some span
  | numberOutOfRange span => some span
  | nestingTooDeep _ span => some span
  | inputTooLong _ _ => none

def message : ParseError → String
  | invalidCharacter found span =>
    s!"invalid character {Text.quoteChar found} at offset {span.start}"
  | unbalancedParentheses span => s!"unbalanced parenthesis at offset {span.start}"
  | numberOutOfRange span => s!"number literal at offset {span.start} is out of range"
  | nestingTooDeep max span => s!"parentheses nested deeper than {max} at offset {span.start}"
  | inputTooLong length max => s!"expression is {length} bytes long, the limit is {max}"

end ParseError

namespace EvalError

def span? : EvalError → Option Span
  | insufficientOperands _ span => some span
  | divisionByZero span => some span
  | unsupportedOperator _ span => some span
  | malformedExpression _ => none
  | strayParenthesis span => some span

def message : EvalError → String
  | insufficientOperands op span =>
    s!"operator '{op}' at offset {span.start} is missing an operand"
  | divisionByZero span => s!"division by zero at offset {span.start}"
  | unsupportedOperator op span => s!"unsupported operator '{op}' at offset {span.start}"
  | malformedExpression values => s!"expression left {values} values instead of one"
  | strayParenthesis span =>
    s!"internal error: parenthesis at offset {span.start} reached the evaluator"

end EvalError

inductive FailureKind where
  | invalidCharacter
  | unbalancedParentheses
  | numberOutOfRange
  | nestingTooDeep
  | inputTooLong
  | insufficientOperands
  | divisionByZero
  | unsupportedOperator
  | malformedExpression
  | internal
  deriving DecidableEq, Repr

def FailureKind.name : FailureKind → String
  | invalidCharacter => "InvalidCharacter"
  | unbalancedParentheses => "UnbalancedParentheses"
  | numberOutOfRange => "NumberOutOfRange"
  | nestingTooDeep => "NestingTooDeep"
  | inputTooLong => "InputTooLong"
  | insufficientOperands => "InsufficientOperands"
  | divisionByZero => "DivisionByZero"
  | unsupportedOperator => "UnsupportedOperator"
  | malformedExpression => "MalformedExpression"
  | internal => "Internal"

namespace Failure

/-- A parenthesis that reaches the evaluation is a fault of the library and not of the text. -/
def kind : Failure → FailureKind
  | parse (.invalidCharacter _ _) => .invalidCharacter
  | parse (.unbalancedParentheses _) => .unbalancedParentheses
  | parse (.numberOutOfRange _) => .numberOutOfRange
  | parse (.nestingTooDeep _ _) => .nestingTooDeep
  | parse (.inputTooLong _ _) => .inputTooLong
  | eval (.insufficientOperands _ _) => .insufficientOperands
  | eval (.divisionByZero _) => .divisionByZero
  | eval (.unsupportedOperator _ _) => .unsupportedOperator
  | eval (.malformedExpression _) => .malformedExpression
  | eval (.strayParenthesis _) => .internal

def isInternal (failure : Failure) : Bool := failure.kind == .internal

def span? : Failure → Option Span
  | parse error => error.span?
  | eval error => error.span?

def message : Failure → String
  | parse error => error.message
  | eval error => error.message

end Failure

abbrev Outcome := Except Failure Float

end Reckon
