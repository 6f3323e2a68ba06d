import Reckon.Scanner

/-! How many parentheses are open at once in a row of them. -/

namespace Reckon

namespace Paren

/-- The number of open parentheses behind a row. Where none is open, a closing one changes nothing. -/
def openBehind : Nat → List Paren → Nat
  | opened, [] => opened
  | opened, .opening :: row => openBehind (opened + 1) row
  | opened, .closing :: row => openBehind (opened - 1) row

def deepest : Nat → List Paren → Nat
  | opened, [] => opened
  | opened, .opening :: row => deepest (opened + 1) row
  | opened, .closing :: row => max opened (deepest (opened - 1) row)

theorem le_deepest (opened : Nat) (row : List Paren) : opened ≤ deepest opened row := by
  induction row generalizing opened with
  | nil => exact Nat.le_refl _
  | cons side row ih =>
    cases side with
    | opening => exact Nat.le_trans (Nat.le_succ _) (ih _)
    | closing => exact Nat.le_max_left _ _

theorem openBehind_append (opened : Nat) (first second : List Paren) :
    openBehind opened (first ++ second) = openBehind (openBehind opened first) second := by
  induction first generalizing opened with
  | nil => rfl
  | cons side row ih => cases side <;> exact ih _

theorem deepest_append (opened : Nat) (first second : List Paren) :
    deepest opened (first ++ second) =
      max (deepest opened first) (deepest (openBehind opened first) second) := by
  induction first generalizing opened with
  | nil => exact (Nat.max_eq_right (le_deepest _ _)).symm
  | cons side row ih =>
    cases side with
    | opening => exact ih _
    | closing => simp [deepest, openBehind, ih, Nat.max_assoc]

theorem deepest_succ_bounds (opened : Nat) (row : List Paren) :
    deepest opened row ≤ deepest (opened + 1) row ∧
      deepest (opened + 1) row ≤ deepest opened row + 1 := by
  induction row generalizing opened with
  | nil => exact ⟨Nat.le_succ opened, Nat.le_refl _⟩
  | cons side row ih =>
    cases side with
    | opening => exact ih (opened + 1)
    | closing =>
      cases opened with
      | zero =>
        simp only [deepest, Nat.zero_add, Nat.sub_self, Nat.zero_sub]
        omega
      | succ opened =>
        obtain ⟨grows, byOne⟩ := ih opened
        simp only [deepest, Nat.add_sub_cancel]
        omega

theorem deepest_add_le (opened extra : Nat) (row : List Paren) :
    deepest (opened + extra) row ≤ deepest opened row + extra := by
  induction extra with
  | zero => exact Nat.le_refl _
  | succ extra ih =>
    calc deepest (opened + extra + 1) row
      _ ≤ deepest (opened + extra) row + 1 := (deepest_succ_bounds _ row).2
      _ ≤ deepest opened row + extra + 1 := Nat.succ_le_succ ih

theorem deepest_without_le (first second : List Paren) (side : Paren) :
    deepest 0 (first ++ second) ≤ deepest 0 (first ++ side :: second) + 1 := by
  rw [deepest_append, deepest_append]
  cases side with
  | opening =>
    have deeper := (deepest_succ_bounds (openBehind 0 first) second).1
    simp only [deepest]
    omega
  | closing =>
    cases openBehind 0 first with
    | zero =>
      simp only [deepest, Nat.zero_sub]
      omega
    | succ opened =>
      have deeper := (deepest_succ_bounds opened second).2
      simp only [deepest, Nat.add_sub_cancel]
      omega

end Paren

def Token.paren? : Token → Option Paren
  | .paren side => some side
  | _ => none

theorem Token.exists_of_isOp {token : Token} (operator : token.isOp = true) :
    ∃ sym, token = .op sym := by
  cases token with
  | op sym => exact ⟨sym, rfl⟩
  | num value => cases operator
  | paren side => cases operator

def parens (tokens : Tokens) : List Paren := tokens.filterMap (·.elem.paren?)

theorem parens_append (first second : Tokens) :
    parens (first ++ second) = parens first ++ parens second :=
  List.filterMap_append

def withoutParens (tokens : Tokens) : Tokens := tokens.filter (·.elem.paren?.isNone)

theorem withoutParens_append (first second : Tokens) :
    withoutParens (first ++ second) = withoutParens first ++ withoutParens second :=
  List.filter_append ..

theorem withoutParens_of_isOp {tokens : Tokens}
    (operators : ∀ token ∈ tokens, token.elem.isOp = true) : withoutParens tokens = tokens := by
  rw [withoutParens, List.filter_eq_self]
  intro token member
  obtain ⟨sym, op⟩ := Token.exists_of_isOp (operators token member)
  rw [op]
  rfl

def Text.parens (source : List Char) : List Paren := source.filterMap Paren.ofChar?

theorem Text.parens_append (first second : List Char) :
    Text.parens (first ++ second) = Text.parens first ++ Text.parens second :=
  List.filterMap_append

end Reckon
