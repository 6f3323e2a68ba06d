import Reckon.Trace
import Reckon.Decimal.Layout

/-! Log records of one reckoning. -/

namespace Reckon

inductive Level where
  | trace
  | debug
  deriving DecidableEq, Repr

def Level.name : Level → String
  | trace => "TRACE"
  | debug => "DEBUG"

structure Record where
  level : Level
  message : String
  deriving DecidableEq, Repr

def Token.text : Token → String
  | .num value => "Num(" ++ Layout.token.text value ++ ")"
  | .op sym => "Op(" ++ Text.quoteChar sym ++ ")"
  | .paren .opening => "Delimiter(LParen)"
  | .paren .closing => "Delimiter(RParen)"

def Span.text (span : Span) : String := s!"{span.start}..{span.stop}"

def locatedText (token : Located Token) : String :=
  "Spanned \x7b elem: " ++ token.elem.text ++ ", span: " ++ token.span.text ++ " \x7d"

def tokensText (tokens : Tokens) : String :=
  "[" ++ ", ".intercalate (tokens.map locatedText) ++ "]"

namespace Record

def ofTokens (tokens : Tokens) : Record := ⟨.trace, "tokens: " ++ tokensText tokens⟩

def ofListing (listing : Tokens) : Record := ⟨.trace, "postfix: " ++ tokensText listing⟩

def ofOutcome (expression : String) : Outcome → Record
  | .ok value => ⟨.trace, "result: " ++ Layout.result.text value⟩
  | .error failure =>
    ⟨.debug, "evaluation of " ++ Text.quoteString expression ++ " failed: " ++ failure.message⟩

end Record

/-- One record for each stage that was reached, and one for the value or the failure. -/
def Limits.records (limits : Limits) (expression : String) : List Record :=
  let trace := limits.trace expression
  (trace.tokens?.map Record.ofTokens).toList ++
    (trace.listing?.map Record.ofListing).toList ++ [Record.ofOutcome expression trace.outcome]

end Reckon
