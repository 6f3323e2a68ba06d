/-! Byte ranges of a text, and values that keep the range they were read from. -/

namespace Reckon

/-- The bytes from `start` up to `stop`, which is not included. -/
structure Span where
  start : Nat
  stop : Nat
  deriving DecidableEq, Repr

structure Located (α : Type) where
  elem : α
  span : Span
  deriving DecidableEq, Repr

end Reckon
