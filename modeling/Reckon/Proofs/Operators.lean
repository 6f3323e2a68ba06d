import Reckon.Token

/-! Laws of the operator table: which operators are carried out first. -/

namespace Reckon

namespace Operator

theorem sym_of_isOperator {sym : Char} (known : isOperator sym = true) :
    sym = '*' ∨ sym = '+' ∨ sym = '-' ∨ sym = '/' ∨ sym = '^' := by
  obtain ⟨operator, found⟩ := Option.isSome_iff_exists.1 known
  have same := List.find?_some found
  have member := List.mem_of_find?_eq_some found
  rw [← eq_of_beq same]
  simp only [table, List.mem_cons, List.not_mem_nil, or_false] at member
  rcases member with rfl | rfl | rfl | rfl | rfl <;> decide

theorem yieldsTo_trans {first second third : Operator} (outer : first.yieldsTo second = true)
    (inner : second.yieldsTo third = true) : first.yieldsTo third = true := by
  unfold yieldsTo at *
  split at outer <;> split at inner <;> simp at * <;> omega

theorem yieldsTo_of_not_yieldsTo {first second third : Operator}
    (outer : first.yieldsTo second = true) (inner : third.yieldsTo second = false) :
    first.yieldsTo third = true := by
  unfold yieldsTo at *
  split at outer <;> split at inner <;> simp at * <;> omega

theorem yieldsTo_eq_false_iff {incoming top : Operator} :
    incoming.yieldsTo top = false ↔
      top.prec < incoming.prec ∨ incoming.prec = top.prec ∧ incoming.assoc = .right := by
  cases side : incoming.assoc with
  | left => simp [yieldsTo, side]
  | right =>
    simp only [yieldsTo, side, decide_eq_false_iff_not, and_true]
    omega

theorem cases_of_not_yieldsTo {first second : Operator} (firstKnown : first ∈ table)
    (secondKnown : second ∈ table) (holds : first.yieldsTo second = false) :
    first.sym = '^' ∨
      (first.sym = '*' ∨ first.sym = '/') ∧ (second.sym = '+' ∨ second.sym = '-') := by
  have checked : ∀ first ∈ table, ∀ second ∈ table, first.yieldsTo second = false →
      first.sym = '^' ∨
        (first.sym = '*' ∨ first.sym = '/') ∧ (second.sym = '+' ∨ second.sym = '-') := by decide
  exact checked first firstKnown second secondKnown holds

end Operator

end Reckon
