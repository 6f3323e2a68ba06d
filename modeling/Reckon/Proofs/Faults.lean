import Reckon.Binary64.Bits
import Reckon.Proofs.Moves
import Reckon.Proofs.Pipeline
import Reckon.Proofs.Tree

/-! Where the reckoning of a row of tokens fails, told by counts and trees instead of a stack. Main
statement: the first fault of a row is its failure, a row without faults has as many values as it has more
numbers than operators, and it has a result if that is one. -/

namespace Reckon

open Postfix (apply reckon result)

def surplus (tokens : Tokens) : Int := numbers tokens - operators tokens

/-- The value of the tree whose listing ends some tokens. -/
def LastOperand (before : Tokens) (value : Float) : Prop :=
  ∃ front, ∃ tree : Expr, before = front ++ tree.listing ∧ tree.value = .ok value

/-- What is wrong with a token behind those before it. -/
inductive Faults (before : Tokens) : Located Token → EvalError → Prop
  | paren (side : Paren) (span : Span) : Faults before ⟨.paren side, span⟩ (.strayParenthesis span)
  | operand (sym : Char) (span : Span) (few : surplus before < 2) :
      Faults before ⟨.op sym, span⟩ (.insufficientOperands sym span)
  | foreign {sym : Char} (span : Span) (enough : 2 ≤ surplus before)
      (unknown : sym ∉ ['+', '-', '*', '/', '^']) :
      Faults before ⟨.op sym, span⟩ (.unsupportedOperator sym span)
  | divisor {value : Float} (span : Span) (enough : 2 ≤ surplus before)
      (last : LastOperand before value) (zero : value = 0 ∨ value = -0) :
      Faults before ⟨.op '/', span⟩ (.divisionByZero span)

def Faultless (tokens : Tokens) : Prop :=
  ∀ before token behind error, tokens = before ++ token :: behind → ¬Faults before token error

def FirstFault (tokens : Tokens) (error : EvalError) : Prop :=
  ∃ before token behind, tokens = before ++ token :: behind ∧ Faults before token error ∧
    Faultless before

/-- Listings of trees side by side, with the values of the trees, the last one on top. -/
inductive Reckoned : Tokens → Stack Float → Prop
  | nil : Reckoned [] .empty
  | tree {read : Tokens} {values : List Float} {value : Float} (tree : Expr)
      (before : Reckoned read ⟨values⟩) (valued : tree.value = .ok value) :
      Reckoned (read ++ tree.listing) ⟨value :: values⟩

theorem Reckoned.step {read : Tokens} {values next : Stack Float} {token : Located Token}
    (reckoned : Reckoned read values) (step : reckon values token = .ok next) :
    Reckoned (read ++ [token]) next := by
  cases Postfix.reckon_eq_ok.1 step with
  | number _ value span => exact .tree (.num value span) reckoned rfl
  | @operator sym left right value span below applied =>
    cases reckoned with
    | tree rightTree before rightValue =>
      cases before with
      | tree leftTree before leftValue =>
        have whole : (Expr.node sym span leftTree rightTree).value = .ok value := by
          simp only [Expr.value, leftValue, rightValue, Except.bind, applied]
        have joined := Reckoned.tree _ before whole
        simp only [Expr.listing, ← List.append_assoc] at joined
        exact joined

theorem Reckoned.run {read : Tokens} {values : Stack Float} (reckoned : Reckoned read values) :
    read.foldlM reckon .empty = .ok values := by
  induction reckoned with
  | nil => rfl
  | tree tree before valued ih =>
    rw [foldlM_append_of_ok ih, tree.foldlM_listing, valued]
    rfl

section Run

variable {tokens : Tokens} {values : Stack Float}

theorem reckoned_of_run (run : tokens.foldlM reckon .empty = .ok values) : Reckoned tokens values := by
  have start : Reckoned [] .empty := .nil
  exact foldlM_preserves Reckoned.step start run

theorem surplus_of_run (run : tokens.foldlM reckon .empty = .ok values) :
    surplus tokens = values.size := by
  have height := Postfix.size_of_foldlM_reckon run
  simp only [Stack.empty, Stack.size, List.length_nil] at height
  rw [surplus, Stack.size]
  omega

theorem lastOperand_iff (run : tokens.foldlM reckon .empty = .ok values) {value : Float} :
    LastOperand tokens value ↔ values.items.head? = some value := by
  constructor
  · rintro ⟨front, tree, rfl, valued⟩
    rw [List.foldlM_append] at run
    obtain ⟨middle, _, run⟩ := bind_eq_ok.1 run
    rw [tree.foldlM_listing, valued] at run
    cases run
    rfl
  · intro top
    cases reckoned_of_run run with
    | nil => cases top
    | tree tree before valued =>
      cases top
      exact ⟨_, tree, rfl, valued⟩

theorem exists_operands (run : tokens.foldlM reckon .empty = .ok values)
    (enough : 2 ≤ surplus tokens) : ∃ right left below, values = ⟨right :: left :: below⟩ := by
  rw [surplus_of_run run] at enough
  obtain ⟨items⟩ := values
  match items with
  | [] => cases enough
  | [_] => cases enough
  | right :: left :: below => exact ⟨right, left, below, rfl⟩

end Run

theorem isOperator_iff {sym : Char} : isOperator sym = true ↔ sym ∈ ['+', '-', '*', '/', '^'] := by
  constructor
  · intro known
    rcases Operator.sym_of_isOperator known with rfl | rfl | rfl | rfl | rfl <;> decide
  · intro member
    have checked : ['+', '-', '*', '/', '^'].all isOperator = true := by decide
    exact List.all_eq_true.1 checked sym member

theorem apply_eq_error_iff {sym : Char} {left right : Float} {span : Span} {error : EvalError} :
    apply sym left right span = .error error ↔
      (sym ∉ ['+', '-', '*', '/', '^'] ∧ error = .unsupportedOperator sym span) ∨
        sym = '/' ∧ (right = 0 ∨ right = -0) ∧ error = .divisionByZero span := by
  rw [← isOperator_iff, ← Binary64.beq_zero_iff]
  cases known : isOperator sym with
  | false =>
    rw [Postfix.apply_of_foreign known, Except.error.injEq]
    constructor
    · rintro rfl
      exact .inl ⟨Bool.false_ne_true, rfl⟩
    · rintro (⟨_, rfl⟩ | ⟨rfl, _⟩)
      · rfl
      · cases known
  | true =>
    have applied := Postfix.apply_of_isOperator known left right span
    split at applied
    · next division =>
      obtain ⟨rfl, zero⟩ := division
      rw [applied, Except.error.injEq]
      constructor
      · rintro rfl
        exact .inr ⟨rfl, zero, rfl⟩
      · rintro (⟨unknown, _⟩ | ⟨_, _, rfl⟩)
        · exact absurd rfl unknown
        · rfl
    · next noDivision =>
      obtain ⟨value, applied⟩ := applied
      rw [applied]
      constructor
      · nofun
      · rintro (⟨unknown, _⟩ | ⟨division, zero, _⟩)
        · exact absurd rfl unknown
        · exact absurd ⟨division, zero⟩ noDivision

section Faults

variable {tokens : Tokens} {values : Stack Float} {error : EvalError}

theorem reckon_eq_error_iff (run : tokens.foldlM reckon .empty = .ok values)
    {token : Located Token} : reckon values token = .error error ↔ Faults tokens token error := by
  have count := surplus_of_run run
  constructor
  · intro failed
    cases Postfix.reckon_eq_error.1 failed with
    | paren _ side span => exact .paren side span
    | operand sym span few =>
      apply Faults.operand
      omega
    | @operator sym left right span _ below failed =>
      -- The height of the stack is the surplus, so both operands are there.
      have enough : 2 ≤ surplus tokens := by
        rw [count]
        simp only [Stack.size, List.length_cons]
        omega
      rcases apply_eq_error_iff.1 failed with ⟨unknown, rfl⟩ | ⟨rfl, zero, rfl⟩
      · exact .foreign span enough unknown
      · exact .divisor span enough ((lastOperand_iff run).2 rfl) zero
  · intro fault
    cases fault with
    | paren side span => exact Postfix.reckon_paren values side span
    | operand sym span few =>
      apply Postfix.reckon_of_few
      omega
    | foreign span enough unknown =>
      obtain ⟨right, left, below, rfl⟩ := exists_operands run enough
      apply Postfix.Stops.reckon
      exact .operator below (apply_eq_error_iff.2 (.inl ⟨unknown, rfl⟩))
    | divisor span enough last zero =>
      obtain ⟨right, left, below, rfl⟩ := exists_operands run enough
      cases (lastOperand_iff run).1 last
      apply Postfix.Stops.reckon
      exact .operator below (apply_eq_error_iff.2 (.inr ⟨rfl, zero, rfl⟩))

theorem faultless_iff : Faultless tokens ↔ ∃ values, tokens.foldlM reckon .empty = .ok values := by
  constructor
  · intro faultless
    cases run : tokens.foldlM reckon .empty with
    | ok values => exact ⟨values, rfl⟩
    | error failure =>
      obtain ⟨before, token, behind, state, parts, earlier, fails⟩ := foldlM_eq_error_iff.1 run
      have fault := (reckon_eq_error_iff earlier).1 fails
      exact absurd fault (faultless before token behind failure parts)
  · rintro ⟨values, run⟩ before token behind failure rfl fault
    rw [List.foldlM_append] at run
    obtain ⟨state, earlier, run⟩ := bind_eq_ok.1 run
    rw [List.foldlM_cons, (reckon_eq_error_iff earlier).2 fault] at run
    cases run

theorem firstFault_iff : FirstFault tokens error ↔ tokens.foldlM reckon .empty = .error error := by
  rw [foldlM_eq_error_iff]
  constructor
  · rintro ⟨before, token, behind, parts, fault, faultless⟩
    obtain ⟨values, run⟩ := faultless_iff.1 faultless
    exact ⟨before, token, behind, values, parts, run, (reckon_eq_error_iff run).2 fault⟩
  · rintro ⟨before, token, behind, values, parts, run, fails⟩
    exact ⟨before, token, behind, parts, (reckon_eq_error_iff run).1 fails, faultless_iff.2 ⟨values, run⟩⟩

theorem result_eq_error_iff :
    result values = .error error ↔ values.size ≠ 1 ∧ error = .malformedExpression values.size := by
  obtain ⟨items⟩ := values
  match items with
  | [] => simp [result, Stack.size, eq_comm]
  | [_] => simp [result, Stack.size]
  | _ :: _ :: _ => simp [result, Stack.size, eq_comm]

theorem evaluate_of_run (run : tokens.foldlM reckon .empty = .ok values) :
    Postfix.evaluate tokens = result values := by
  unfold Postfix.evaluate
  rw [run]
  rfl

theorem evaluate_fails_iff :
    Postfix.evaluate tokens = .error error ↔ FirstFault tokens error ∨
      Faultless tokens ∧ surplus tokens ≠ 1 ∧
        error = .malformedExpression (surplus tokens).toNat := by
  rw [firstFault_iff, faultless_iff]
  cases run : tokens.foldlM reckon .empty with
  | error failure =>
    have failed : Postfix.evaluate tokens = .error failure := by
      unfold Postfix.evaluate
      rw [run]
      rfl
    simp [failed]
  | ok values =>
    have count := surplus_of_run run
    have one : surplus tokens ≠ 1 ↔ values.size ≠ 1 := by omega
    rw [evaluate_of_run run, result_eq_error_iff, one, count, Int.toNat_natCast]
    simp

theorem exists_value_iff :
    (∃ value, Postfix.evaluate tokens = .ok value) ↔ Faultless tokens ∧ surplus tokens = 1 := by
  rw [faultless_iff]
  constructor
  · rintro ⟨value, reckoned⟩
    obtain ⟨values, run, one⟩ := bind_eq_ok.1 reckoned
    refine ⟨⟨values, run⟩, ?_⟩
    rw [surplus_of_run run, Stack.size, Postfix.result_eq_ok.1 one]
    rfl
  · rintro ⟨⟨⟨items⟩, run⟩, one⟩
    rw [surplus_of_run run] at one
    obtain ⟨value, rfl⟩ := List.length_eq_one_iff.1 (Int.natCast_inj.1 one)
    exact ⟨value, evaluate_of_run run⟩

theorem eq_nil_of_surplus (faultless : Faultless tokens) (none : surplus tokens = 0) :
    tokens = [] := by
  obtain ⟨values, run⟩ := faultless_iff.1 faultless
  rw [surplus_of_run run] at none
  cases reckoned_of_run run with
  | nil => rfl
  | tree tree before valued => cases none

end Faults

theorem surplus_of_listed {maxDepth : Nat} {tokens listing : Tokens}
    (listed : Postfix.ofTokens maxDepth tokens = .ok listing) : surplus listing = surplus tokens := by
  have sameNumbers := Postfix.countP_of_listed listed Token.isNum fun _ => rfl
  have sameOperators := Postfix.countP_of_listed listed Token.isOp fun _ => rfl
  rw [surplus, numbers, operators, sameNumbers, sameOperators]
  rfl

/-- The first fault of a row is its failure. A row without faults fails by the count of its values, which
is its surplus of numbers, unless that is one, and none are left of an empty row only. So a text with a value
has one number more than it has operators. -/
theorem evaluate_verdict (tokens : Tokens) :
    (∀ error, Postfix.evaluate tokens = .error error ↔ FirstFault tokens error ∨
        Faultless tokens ∧ surplus tokens ≠ 1 ∧
          error = .malformedExpression (surplus tokens).toNat) ∧
      ((∃ value, Postfix.evaluate tokens = .ok value) ↔ Faultless tokens ∧ surplus tokens = 1) ∧
      (Faultless tokens → 0 ≤ surplus tokens ∧ (surplus tokens = 0 → tokens = [])) ∧
      ∀ (limits : Limits) (expression : String) (value : Float),
        limits.evaluate expression = .ok value →
          ∃ row, tokenize expression = .ok row ∧ surplus row = 1 := by
  refine ⟨fun _ => evaluate_fails_iff, exists_value_iff, ?_, ?_⟩
  · intro faultless
    obtain ⟨values, run⟩ := faultless_iff.1 faultless
    have count := surplus_of_run run
    exact ⟨by omega, eq_nil_of_surplus faultless⟩
  · intro limits expression value reckoned
    obtain ⟨row, listing, read, listed, valued⟩ := Limits.evaluate_eq_ok reckoned
    refine ⟨row, read, ?_⟩
    rw [← surplus_of_listed listed]
    exact (exists_value_iff.1 ⟨value, valued⟩).2

/-- The divisor `0 * -1` is the negative zero, and the division is blamed before the unknown operator and
the parenthesis behind it. An unknown operator with one operand is blamed for the other one. An operator behind
both of its operands counts like one between them. -/
theorem evaluate_verdict_negative_zero :
    let row : Tokens := [⟨.num 8, ⟨0, 1⟩⟩, ⟨.num 0, ⟨1, 2⟩⟩, ⟨.num (-1), ⟨2, 4⟩⟩, ⟨.op '*', ⟨4, 5⟩⟩,
      ⟨.op '/', ⟨5, 6⟩⟩, ⟨.op '?', ⟨6, 7⟩⟩, ⟨.paren .opening, ⟨7, 8⟩⟩]
    let short : Tokens := [⟨.num 8, ⟨0, 1⟩⟩, ⟨.op '?', ⟨1, 2⟩⟩]
    FirstFault row (.divisionByZero ⟨5, 6⟩) ∧
      Postfix.evaluate row = .error (.divisionByZero ⟨5, 6⟩) ∧
      FirstFault short (.insufficientOperands '?' ⟨1, 2⟩) ∧
      Postfix.evaluate short = .error (.insufficientOperands '?' ⟨1, 2⟩) ∧
      ({} : Limits).evaluate "(2)(3)+" = .ok 5 ∧
        ∃ tokens, tokenize "(2)(3)+" = .ok tokens ∧ surplus tokens = 1 := by
  intro row short
  have divided : Postfix.evaluate row = .error (.divisionByZero ⟨5, 6⟩) := by decide +kernel
  have lacking : Postfix.evaluate short = .error (.insufficientOperands '?' ⟨1, 2⟩) := by
    decide +kernel
  have value : ({} : Limits).evaluate "(2)(3)+" = .ok 5 := by decide +kernel
  obtain ⟨rowFails, _, _, texts⟩ := evaluate_verdict row
  obtain ⟨shortFails, _⟩ := evaluate_verdict short
  refine ⟨?_, divided, ?_, lacking, value, texts {} _ _ value⟩
  · rcases (rowFails _).1 divided with first | ⟨_, _, malformed⟩
    · exact first
    · cases malformed
  · rcases (shortFails _).1 lacking with first | ⟨_, _, malformed⟩
    · exact first
    · cases malformed

end Reckon
