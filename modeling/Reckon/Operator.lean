/-! The binary operators and the rule by which one of them waits for another. -/

namespace Reckon

inductive Assoc where
  | left
  | right
  deriving DecidableEq, Repr

structure Operator where
  sym : Char
  assoc : Assoc
  prec : Nat
  deriving DecidableEq, Repr

namespace Operator

/-- Whether an operator that waits on top of the stack is carried out before the incoming one. -/
def yieldsTo (incoming top : Operator) : Bool :=
  match incoming.assoc with
  | .left => incoming.prec ≤ top.prec
  | .right => incoming.prec < top.prec

def table : List Operator :=
  [⟨'*', .left, 2⟩, ⟨'+', .left, 1⟩, ⟨'-', .left, 1⟩, ⟨'/', .left, 2⟩, ⟨'^', .right, 3⟩]

def find? (sym : Char) : Option Operator := table.find? fun operator => operator.sym == sym

end Operator

def isOperator (sym : Char) : Bool := (Operator.find? sym).isSome

end Reckon
