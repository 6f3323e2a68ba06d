/-! Bounds on what an expression may cost. -/

namespace Reckon

structure Limits where
  /-- greatest length of an expression in bytes -/
  maxInputLen : Nat := 4096
  /-- greatest number of parentheses open at once -/
  maxNestingDepth : Nat := 256
  deriving DecidableEq, Repr

end Reckon
