import Reckon.Expr
import Reckon.Proofs.Reckoning

/-! What the value of a tree is, and where it fails. Main statements: over the operators of the table a
tree has a value unless it divides by zero, and then the first such division is blamed; wherever the listing
of a tree stands, it is reckoned as the tree is. -/

namespace Reckon

namespace Expr

def Known : Expr → Prop
  | num _ _ => True
  | node sym _ left right => isOperator sym = true ∧ left.Known ∧ right.Known

def operations : Expr → List Expr
  | num _ _ => []
  | node sym span left right => left.operations ++ right.operations ++ [node sym span left right]

def zeroDivision? : Expr → Option Span
  | node '/' span _ right =>
    match right.value with
    | .ok divisor => if divisor == 0 then some span else none
    | .error _ => none
  | _ => none

def firstZeroDivision? (tree : Expr) : Option Span := tree.operations.findSome? zeroDivision?

theorem zeroDivision?_node {sym : Char} {right : Expr} {divisor : Float}
    (value : right.value = .ok divisor) (span : Span) (left : Expr) :
    (node sym span left right).zeroDivision? =
      if sym = '/' ∧ (divisor == 0) = true then some span else none := by
  unfold zeroDivision?
  split
  · next same =>
    injection same with sym place _ same
    subst same
    simp [sym, place, value]
  · next other =>
    have noDivision : sym ≠ '/' := by
      intro division
      exact other span left right (by rw [division])
    simp [noDivision]

/-- How the value of a tree follows from its first division by zero. -/
theorem value_of_known {tree : Expr} (known : tree.Known) :
    match tree.firstZeroDivision? with
    | none => ∃ value, tree.value = .ok value
    | some span => tree.value = .error (.divisionByZero span) := by
  induction tree with
  | num value span => exact ⟨value, rfl⟩
  | node sym span left right leftStep rightStep =>
    obtain ⟨knownSym, knownLeft, knownRight⟩ := known
    have leftStep := leftStep knownLeft
    have rightStep := rightStep knownRight
    simp only [firstZeroDivision?, operations, List.findSome?_append] at leftStep rightStep ⊢
    cases leftZero : left.operations.findSome? zeroDivision? with
    | some place =>
      rw [leftZero] at leftStep
      simp only [Option.some_or, value, leftStep]
      rfl
    | none =>
      rw [leftZero] at leftStep
      obtain ⟨a, leftValue⟩ := leftStep
      cases rightZero : right.operations.findSome? zeroDivision? with
      | some place =>
        rw [rightZero] at rightStep
        simp only [Option.none_or, Option.some_or, value, leftValue, rightStep]
        rfl
      | none =>
        rw [rightZero] at rightStep
        obtain ⟨b, rightValue⟩ := rightStep
        have applied := Postfix.apply_of_isOperator knownSym a b span
        simp only [Option.none_or, List.findSome?_singleton, zeroDivision?_node rightValue, value,
          leftValue, rightValue]
        split at applied
        · next zero =>
          rw [if_pos zero]
          exact applied
        · next nonzero =>
          rw [if_neg nonzero]
          exact applied

theorem evaluate_listing (tree : Expr) : Postfix.evaluate tree.listing = tree.value := by
  unfold Postfix.evaluate
  rw [foldlM_listing]
  cases tree.value <;> rfl

end Expr

theorem Token.exists_of_isNum {token : Token} (number : token.isNum = true) :
    ∃ value, token = .num value := by
  cases token with
  | num value => exact ⟨value, rfl⟩
  | op sym => cases number
  | paren side => cases number

theorem Postfix.exists_run_of_numbers {row : Tokens}
    (numbers : ∀ token ∈ row, token.elem.isNum = true) (values : Stack Float) :
    ∃ last, row.foldlM reckon values = .ok last := by
  induction row generalizing values with
  | nil => exact ⟨values, rfl⟩
  | cons token rest ih =>
    obtain ⟨number, others⟩ := List.forall_mem_cons.1 numbers
    obtain ⟨elem, span⟩ := token
    obtain ⟨value, rfl⟩ := Token.exists_of_isNum number
    have step : reckon values ⟨.num value, span⟩ = .ok (values.push value) := rfl
    rw [foldlM_cons_of_ok step]
    exact ih others _

namespace Expr

theorem evaluate_of_failure {tree : Expr} {failure : EvalError} (failed : tree.value = .error failure)
    {front : Tokens} {values : Stack Float}
    (run : front.foldlM Postfix.reckon .empty = .ok values) (back : Tokens) :
    Postfix.evaluate (front ++ tree.listing ++ back) = .error failure := by
  unfold Postfix.evaluate
  rw [List.append_assoc, foldlM_append_of_ok run, List.foldlM_append, foldlM_listing, failed]
  rfl

/-- The listing of a tree comes to what the tree comes to. Within another listing it may stand for the
number that is its value, and where only numbers stand before it, its failure is the failure of the whole. -/
theorem evaluate_subtree (tree : Expr) (back : Tokens) :
    Postfix.evaluate tree.listing = tree.value ∧
      (∀ value, tree.value = .ok value → ∀ front place,
        Postfix.evaluate (front ++ tree.listing ++ back) =
          Postfix.evaluate (front ++ ⟨.num value, place⟩ :: back)) ∧
      ∀ failure, tree.value = .error failure →
        ∀ front : Tokens, (∀ token ∈ front, token.elem.isNum = true) →
          Postfix.evaluate (front ++ tree.listing ++ back) = .error failure := by
  refine ⟨tree.evaluate_listing, ?_, ?_⟩
  · intro value valued front place
    exact Postfix.evaluate_of_part (tree.evaluate_listing.trans valued) place front back
  · intro failure failed front numbers
    obtain ⟨values, run⟩ := Postfix.exists_run_of_numbers numbers .empty
    exact evaluate_of_failure failed run back

/-- The difference of two infinities is no number, and yet it is taken as one. Where the difference is zero,
the division by it is blamed, and not the unknown operator that is carried out behind it. -/
theorem evaluate_subtree_failing_operand :
    let difference (operand : Float) : Expr :=
      .node '-' ⟨12, 13⟩ (.num operand ⟨11, 12⟩) (.num operand ⟨13, 14⟩)
    let tree : Expr := .node '?' ⟨5, 6⟩ (.node '-' ⟨2, 3⟩ (.num 8 ⟨1, 2⟩) (.num 9 ⟨3, 4⟩))
      (.node '/' ⟨8, 9⟩ (.num 3 ⟨7, 8⟩) (difference 2))
    (difference (1 / 0)).value = .ok (1 / 0 - 1 / 0) ∧
      Postfix.evaluate ([⟨.num 7, ⟨0, 1⟩⟩] ++ (difference (1 / 0)).listing ++ [⟨.op '/', ⟨14, 15⟩⟩]) =
        Postfix.evaluate [⟨.num 7, ⟨0, 1⟩⟩, ⟨.num (1 / 0 - 1 / 0), ⟨11, 14⟩⟩, ⟨.op '/', ⟨14, 15⟩⟩] ∧
      tree.value = .error (.divisionByZero ⟨8, 9⟩) ∧
        Postfix.evaluate ([⟨.num 7, ⟨0, 1⟩⟩] ++ tree.listing ++ [⟨.op '+', ⟨14, 15⟩⟩]) =
          .error (.divisionByZero ⟨8, 9⟩) := by
  intro difference tree
  have undefined : (difference (1 / 0)).value = .ok (1 / 0 - 1 / 0) := rfl
  have failed : tree.value = .error (.divisionByZero ⟨8, 9⟩) := by decide +kernel
  obtain ⟨_, inPlace, _⟩ := evaluate_subtree (difference (1 / 0)) [⟨.op '/', ⟨14, 15⟩⟩]
  obtain ⟨_, _, fails⟩ := evaluate_subtree tree [⟨.op '+', ⟨14, 15⟩⟩]
  have numbers : ∀ token ∈ ([⟨.num 7, ⟨0, 1⟩⟩] : Tokens), token.elem.isNum = true := by decide
  exact ⟨undefined, inPlace _ undefined [⟨.num 7, ⟨0, 1⟩⟩] ⟨11, 14⟩, failed, fails _ failed _ numbers⟩

end Expr

end Reckon
