import Reckon.Binary64.Bits
import Reckon.Proofs.Operators
import Reckon.Proofs.Tree

/-! Arithmetic on binary64 numbers, told without the operator table. Main statement: a formula has the
value of its tree, in which the symbols of the operations stand for them. -/

namespace Reckon

inductive Operation where
  | sum
  | difference
  | product
  | quotient
  | power
  deriving DecidableEq, Repr

namespace Operation

def sym : Operation → Char
  | sum => '+'
  | difference => '-'
  | product => '*'
  | quotient => '/'
  | power => '^'

def level : Operation → Nat
  | sum | difference => 1
  | product | quotient => 2
  | power => 3

def compute : Operation → Float → Float → Float
  | sum, left, right => left + right
  | difference, left, right => left - right
  | product, left, right => left * right
  | quotient, left, right => left / right
  | power, left, right => left.pow right

/-- Parentheses keep an operand together that would come apart, for all but powers group to the left. -/
def leftNeedsParens (outer inner : Operation) : Prop :=
  inner.level < outer.level ∨ inner.level = outer.level ∧ outer = power

def rightNeedsParens (outer inner : Operation) : Prop :=
  inner.level < outer.level ∨ inner.level = outer.level ∧ outer ≠ power

instance (outer inner : Operation) : Decidable (leftNeedsParens outer inner) :=
  inferInstanceAs (Decidable (_ ∨ _))

instance (outer inner : Operation) : Decidable (rightNeedsParens outer inner) :=
  inferInstanceAs (Decidable (_ ∨ _))

def operator (operation : Operation) : Operator :=
  ⟨operation.sym, if operation = power then .right else .left, operation.level⟩

theorem find?_sym (operation : Operation) : Operator.find? operation.sym = some operation.operator := by
  cases operation <;> rfl

theorem isOperator_sym (operation : Operation) : isOperator operation.sym = true :=
  Option.isSome_iff_exists.2 ⟨_, operation.find?_sym⟩

theorem apply_sym (operation : Operation) (left right : Float) (span : Span) :
    Postfix.apply operation.sym left right span =
      if operation = quotient ∧ (right = 0 ∨ right = -0) then .error (.divisionByZero span)
      else .ok (operation.compute left right) := by
  cases operation with
  | quotient => simp only [sym, compute, Postfix.apply, Binary64.beq_zero_iff, true_and]
  | sum => rfl
  | difference => rfl
  | product => rfl
  | power => rfl

theorem assoc_operator_eq_right {operation : Operation} :
    operation.operator.assoc = .right ↔ operation = power := by
  cases operation <;> decide

theorem eq_power_of_level {operation : Operation} (same : operation.level = power.level) :
    operation = power := by
  cases operation with
  | power => rfl
  | _ => cases same

variable {outer inner : Operation}

theorem yieldsTo_of_leftBare (bare : ¬outer.leftNeedsParens inner) :
    outer.operator.yieldsTo inner.operator = true := by
  rw [← Bool.not_eq_false, Operator.yieldsTo_eq_false_iff]
  rintro (looser | ⟨same, right⟩)
  · exact bare (.inl looser)
  · exact bare (.inr ⟨same.symm, assoc_operator_eq_right.1 right⟩)

theorem not_yieldsTo_of_rightBare (bare : ¬outer.rightNeedsParens inner) :
    inner.operator.yieldsTo outer.operator = false := by
  rw [Operator.yieldsTo_eq_false_iff]
  obtain ⟨notLooser, notEqual⟩ := not_or.1 bare
  rcases Nat.lt_or_eq_of_le (Nat.not_lt.1 notLooser) with tighter | same
  · exact .inl tighter
  · have outerPower : outer = power := by
      by_contra other
      exact notEqual ⟨same.symm, other⟩
    -- Operations of one level group to one side, so the operand is a power as well.
    subst outerPower
    exact .inr ⟨same.symm, assoc_operator_eq_right.2 (eq_power_of_level same.symm)⟩

end Operation

inductive Formula where
  | literal (value : Float) (span : Span)
  | node (operation : Operation) (span : Span) (left right : Formula)
  deriving DecidableEq, Repr

namespace Formula

/-- The value, or the place of a division that has none. The left operand is computed first. -/
def value : Formula → Except Span Float
  | literal value _ => .ok value
  | node operation span left right =>
    left.value.bind fun a => right.value.bind fun b =>
      if operation = .quotient ∧ (b = 0 ∨ b = -0) then .error span else .ok (operation.compute a b)

def divisions : Formula → List (Span × Formula)
  | literal _ _ => []
  | node operation span left right =>
    left.divisions ++ right.divisions ++ if operation = .quotient then [(span, right)] else []

/-- The place of the first division, in postfix order, whose divisor comes to zero. -/
def firstZeroDivision? (formula : Formula) : Option Span :=
  (formula.divisions.find? fun division =>
    division.2.value = .ok 0 ∨ division.2.value = .ok (-0)).map (·.1)

def toExpr : Formula → Expr
  | literal value span => .num value span
  | node operation span left right => .node operation.sym span left.toExpr right.toExpr

theorem known_toExpr (formula : Formula) : formula.toExpr.Known := by
  induction formula with
  | literal value span => trivial
  | node operation span left right leftKnown rightKnown =>
    exact ⟨operation.isOperator_sym, leftKnown, rightKnown⟩

theorem value_toExpr (formula : Formula) :
    formula.toExpr.value = formula.value.mapError .divisionByZero := by
  induction formula with
  | literal value span => rfl
  | node operation span left right leftStep rightStep =>
    simp only [toExpr, Expr.value, value, leftStep, rightStep]
    cases left.value with
    | error place => rfl
    | ok a =>
      cases right.value with
      | error place => rfl
      | ok b =>
        simp only [Except.mapError, Except.bind, Operation.apply_sym]
        split <;> rfl

theorem firstZeroDivision?_toExpr (formula : Formula) :
    formula.toExpr.firstZeroDivision? = formula.firstZeroDivision? := by
  induction formula with
  | literal value span => rfl
  | node operation span left right leftStep rightStep =>
    simp only [Expr.firstZeroDivision?, firstZeroDivision?] at leftStep rightStep ⊢
    simp only [toExpr, Expr.operations, divisions, List.findSome?_append, List.find?_append,
      List.findSome?_singleton, Option.map_or, leftStep, rightStep]
    congr 1
    cases operation with
    | quotient =>
      simp only [Operation.sym, Expr.zeroDivision?, value_toExpr]
      cases value : right.value with
      | error place => simp [Except.mapError, value]
      | ok divisor => simp [Except.mapError, value, Binary64.beq_zero_iff]
    | sum => rfl
    | difference => rfl
    | product => rfl
    | power => rfl

theorem value_of_firstZeroDivision? (formula : Formula) :
    match formula.firstZeroDivision? with
    | none => ∃ value, formula.value = .ok value
    | some span => formula.value = .error span := by
  -- The tree of the formula has operators of the table only and divides by zero where the formula does.
  have reckoned := Expr.value_of_known formula.known_toExpr
  rw [firstZeroDivision?_toExpr, value_toExpr] at reckoned
  cases zero : formula.firstZeroDivision? with
  | none =>
    rw [zero] at reckoned
    simpa only [mapError_eq_ok] using reckoned
  | some span =>
    rw [zero] at reckoned
    obtain ⟨place, failed, same⟩ := mapError_eq_error.1 reckoned
    cases same
    exact failed

end Formula

end Reckon
