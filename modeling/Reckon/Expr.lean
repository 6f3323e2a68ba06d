import Reckon.Postfix.Evaluation

/-! Expressions as trees, with their values and their postfix listings. Main statement: to reckon the
listing of a tree is to push the value of the tree. -/

namespace Reckon

inductive Expr where
  | num (value : Float) (span : Span)
  | node (sym : Char) (span : Span) (left right : Expr)
  deriving DecidableEq, Repr

namespace Expr

def listing : Expr → Tokens
  | num value span => [⟨.num value, span⟩]
  | node sym span left right => left.listing ++ right.listing ++ [⟨.op sym, span⟩]

/-- The left operand is reckoned first, so of two failures the left one counts. -/
def value : Expr → Except EvalError Float
  | num value _ => .ok value
  | node sym span left right =>
    left.value.bind fun a => right.value.bind fun b => Postfix.apply sym a b span

theorem foldlM_listing (tree : Expr) (values : Stack Float) :
    tree.listing.foldlM Postfix.reckon values = tree.value.map values.push := by
  induction tree generalizing values with
  | num value span => rfl
  | node sym span left right leftStep rightStep =>
    simp only [listing, value, List.foldlM_append, leftStep]
    cases left.value with
    | error failure => rfl
    | ok a =>
      simp only [Except.map, bind, Except.bind, rightStep]
      cases right.value with
      | error failure => rfl
      | ok b =>
        simp only [List.foldlM_cons, List.foldlM_nil, Postfix.reckon, Stack.push, bind, Except.bind]
        cases Postfix.apply sym a b span <;> rfl

end Expr

end Reckon
