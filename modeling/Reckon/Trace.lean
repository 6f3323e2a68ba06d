import Reckon.Limits
import Reckon.Scanner
import Reckon.Postfix.Conversion
import Reckon.Postfix.Evaluation

/-! Reckoning an expression, with what was reached on the way. -/

namespace Reckon

/-- The tokens and the listing are there as far as the expression could be read. -/
structure Trace where
  tokens? : Option Tokens
  listing? : Option Tokens
  outcome : Outcome

namespace Trace

def ofListing (tokens listing : Tokens) : Trace :=
  ⟨some tokens, some listing, (Postfix.evaluate listing).mapError .eval⟩

def ofTokens (maxNestingDepth : Nat) (tokens : Tokens) : Trace :=
  match Postfix.ofTokens maxNestingDepth tokens with
  | .error error => ⟨some tokens, none, .error (.parse error)⟩
  | .ok listing => ofListing tokens listing

def ofSource (maxNestingDepth : Nat) (source : String) : Trace :=
  match tokenize source with
  | .error error => ⟨none, none, .error (.parse error)⟩
  | .ok tokens => ofTokens maxNestingDepth tokens

end Trace

def Limits.trace (limits : Limits) (expression : String) : Trace :=
  if limits.maxInputLen < expression.utf8ByteSize then
    ⟨none, none, .error (.parse (.inputTooLong expression.utf8ByteSize limits.maxInputLen))⟩
  else
    Trace.ofSource limits.maxNestingDepth expression

def Limits.evaluate (limits : Limits) (expression : String) : Outcome :=
  (limits.trace expression).outcome

def evaluate (expression : String) : Outcome := Limits.evaluate {} expression

end Reckon
