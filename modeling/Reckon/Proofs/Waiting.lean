import Mathlib.Data.List.Chain
import Reckon.Proofs.Enclosure
import Reckon.Proofs.Operators

/-! What waits while a row of tokens is converted. Main statement: behind every token of any row the depth is
the number of parentheses that wait, and between two barriers the operators that wait stand in layers. -/

namespace Reckon

def Token.operator? : Token → Option Operator
  | op sym => Operator.find? sym
  | _ => none

/-- What no operator is carried out across. -/
def Token.isBarrier : Token → Bool
  | num _ => false
  | op sym => !isOperator sym
  | paren side => side == .opening

namespace Postfix.Conversion

/-- An operator of the table does not wait on what it would have listed first. -/
def Rests (upper lower : Located Token) : Prop :=
  ∀ operator ∈ upper.elem.operator?, precedes operator lower = false

/-- From the top down: powers, then at most one product or quotient, then at most one sum or difference. -/
def Layered (row : Tokens) : Prop :=
  ∃ powers, ∃ product sum : Option (Located Token), row = powers ++ product.toList ++ sum.toList ∧
    (∀ token ∈ powers, token.elem = .op '^') ∧
      (∀ token ∈ product, token.elem = .op '*' ∨ token.elem = .op '/') ∧
        ∀ token ∈ sum, token.elem = .op '+' ∨ token.elem = .op '-'

/-- What is true of a conversion between two tokens. The depth is changed only by one and only by a
parenthesis, and no word that holds the greatest depth is too short to count it. -/
structure Orderly (maxDepth : Nat) (conversion : Conversion) : Prop where
  depth_eq : conversion.depth = conversion.waiting.items.countP (·.elem.isOpening)
  depth_le : conversion.depth ≤ maxDepth
  opens : ∀ token after, token.elem = .paren .opening →
    accept maxDepth conversion token = .ok after →
      after.depth = conversion.depth + 1 ∧ after.depth ≤ maxDepth ∧
        ∀ width, maxDepth < Nat.pow 2 width →
          (BitVec.ofNat width conversion.depth).uaddOverflow (.ofNat width 1) = false
  closes : ∀ token after, token.elem = .paren .closing →
    accept maxDepth conversion token = .ok after →
      after.depth + 1 = conversion.depth ∧
        ∀ width, maxDepth < Nat.pow 2 width →
          (BitVec.ofNat width conversion.depth).usubOverflow (.ofNat width 1) = false
  waits : ∀ token ∈ conversion.waiting.items,
    token.elem ≠ .paren .closing ∧ ∀ value, token.elem ≠ .num value
  rests : ∀ above upper lower below, conversion.waiting.items = above ++ upper :: lower :: below →
    ∀ one ∈ upper.elem.operator?, ∀ other ∈ lower.elem.operator?,
      one.yieldsTo other = false ∧
        (other.prec < one.prec ∨ one.prec = other.prec ∧ one.assoc = .right)
  layered : ∀ above between below, conversion.waiting.items = above ++ between ++ below →
    (∀ token ∈ between, token.elem.isBarrier = false) → Layered between

theorem precedes_eq_false_iff {incoming : Operator} {token : Located Token} :
    precedes incoming token = false ↔
      ∀ operator ∈ token.elem.operator?, incoming.yieldsTo operator = false := by
  obtain ⟨elem, span⟩ := token
  cases elem with
  | op sym =>
    simp only [precedes, Token.operator?]
    cases Operator.find? sym <;> simp
  | num value => simp [precedes, Token.operator?]
  | paren side => simp [precedes, Token.operator?]

theorem Rests.cases_op {upper lower : Located Token} (rests : Rests upper lower) {sym other : Char}
    (upperOp : upper.elem = .op sym) (lowerOp : lower.elem = .op other)
    (known : isOperator sym = true) (knownOther : isOperator other = true) :
    sym = '^' ∨ (sym = '*' ∨ sym = '/') ∧ (other = '+' ∨ other = '-') := by
  obtain ⟨operator, found⟩ := Option.isSome_iff_exists.1 known
  obtain ⟨below, foundBelow⟩ := Option.isSome_iff_exists.1 knownOther
  have holds : operator.yieldsTo below = false := by
    apply precedes_eq_false_iff.1 (rests operator _)
    · rw [lowerOp]
      exact foundBelow
    · rw [upperOp]
      exact found
  have apart := Operator.cases_of_not_yieldsTo (List.mem_of_find?_eq_some found)
    (List.mem_of_find?_eq_some foundBelow) holds
  have same := List.find?_some found
  have sameBelow := List.find?_some foundBelow
  rw [eq_of_beq same, eq_of_beq sameBelow] at apart
  exact apart

section Layers

variable {token : Located Token} {row : Tokens} (rests : (token :: row).IsChain Rests)
  (known : ∀ lower ∈ row, ∃ sym, lower.elem = .op sym ∧ isOperator sym = true)

include rests known

theorem eq_nil_under_sum (sum : token.elem = .op '+' ∨ token.elem = .op '-') : row = [] := by
  cases row with
  | nil => rfl
  | cons lower below =>
    obtain ⟨top, _⟩ := List.isChain_cons_cons.1 rests
    obtain ⟨other, lowerOp, knownOther⟩ := known lower List.mem_cons_self
    rcases sum with plus | minus
    · exact absurd (top.cases_op plus lowerOp rfl knownOther) (by simp)
    · exact absurd (top.cases_op minus lowerOp rfl knownOther) (by simp)

theorem exists_sum_under_product (product : token.elem = .op '*' ∨ token.elem = .op '/') :
    ∃ sum : Option (Located Token), row = sum.toList ∧
      ∀ lower ∈ sum, lower.elem = .op '+' ∨ lower.elem = .op '-' := by
  cases row with
  | nil => exact ⟨none, rfl, nofun⟩
  | cons lower below =>
    obtain ⟨top, later⟩ := List.isChain_cons_cons.1 rests
    obtain ⟨⟨other, lowerOp, knownOther⟩, knownBelow⟩ := List.forall_mem_cons.1 known
    have sum : lower.elem = .op '+' ∨ lower.elem = .op '-' := by
      rw [lowerOp]
      rcases product with times | divides
      · simpa using top.cases_op times lowerOp rfl knownOther
      · simpa using top.cases_op divides lowerOp rfl knownOther
    rw [eq_nil_under_sum later knownBelow sum]
    exact ⟨some lower, rfl, by simpa using sum⟩

end Layers

theorem layered_of_isChain {row : Tokens} (rests : row.IsChain Rests)
    (known : ∀ token ∈ row, ∃ sym, token.elem = .op sym ∧ isOperator sym = true) : Layered row := by
  induction row with
  | nil => exact ⟨[], none, none, rfl, nofun, nofun, nofun⟩
  | cons token below ih =>
    obtain ⟨⟨sym, op, knownSym⟩, knownBelow⟩ := List.forall_mem_cons.1 known
    have kind : token.elem = .op '^' ∨ (token.elem = .op '*' ∨ token.elem = .op '/') ∨
        token.elem = .op '+' ∨ token.elem = .op '-' := by
      rw [op]
      rcases Operator.sym_of_isOperator knownSym with rfl | rfl | rfl | rfl | rfl <;> simp
    rcases kind with power | product | sum
    · obtain ⟨powers, product, sum, rfl, powersAre, others⟩ := ih rests.tail knownBelow
      exact ⟨token :: powers, product, sum, rfl, List.forall_mem_cons.2 ⟨power, powersAre⟩, others⟩
    · obtain ⟨sum, rfl, sumIs⟩ := exists_sum_under_product rests knownBelow product
      exact ⟨[], some token, sum, rfl, nofun, by simpa using product, sumIs⟩
    · rw [eq_nil_under_sum rests knownBelow sum]
      exact ⟨[], none, some token, rfl, nofun, nofun, by simpa using sum⟩

section Moves

variable {maxDepth : Nat} {before after : Conversion} {token : Located Token}

theorem Moves.rests (moves : Moves maxDepth before token after)
    (rests : before.waiting.items.IsChain Rests) : after.waiting.items.IsChain Rests := by
  cases moves with
  | lists value span => exact rests
  | @waits listed carried rest depth sym operator span found carries holds =>
    refine List.isChain_cons.2 ⟨?_, rests.right_of_append⟩
    intro lower top incoming known
    -- What the operator yields to has been listed, and it holds on the first that is left.
    cases found.symm.trans known
    exact holds lower top
  | blocks span unknown =>
    refine List.isChain_cons.2 ⟨?_, rests⟩
    intro lower _ incoming known
    cases unknown.symm.trans known
  | opens span room =>
    refine List.isChain_cons.2 ⟨?_, rests⟩
    intro lower _ incoming known
    cases known
  | closes opening span inside => exact rests.right_of_append.tail

theorem Moves.depth_eq (moves : Moves maxDepth before token after) (counts : Counts before) :
    match token.elem with
    | .paren .opening => after.depth = before.depth + 1 ∧ before.depth < maxDepth
    | .paren .closing => after.depth + 1 = before.depth
    | _ => after.depth = before.depth := by
  cases moves with
  | lists value span => rfl
  | waits span found carries holds => rfl
  | blocks span unknown => rfl
  | opens span room => exact ⟨rfl, room⟩
  | closes opening span inside =>
    have counted := counts.depth_eq_succ inside
    exact Nat.sub_add_cancel (by omega)

structure Rising (maxDepth : Nat) (conversion : Conversion) : Prop where
  depth_le : conversion.depth ≤ maxDepth
  rests : conversion.waiting.items.IsChain Rests

theorem Moves.depth_le (moves : Moves maxDepth before token after)
    (bound : before.depth ≤ maxDepth) : after.depth ≤ maxDepth := by
  cases moves with
  | lists value span => exact bound
  | waits span found carries holds => exact bound
  | blocks span unknown => exact bound
  | opens span room => exact room
  | closes opening span inside => exact Nat.le_trans (Nat.sub_le _ 1) bound

theorem foldlM_rising {tokens : Tokens} {conversion : Conversion}
    (run : tokens.foldlM (accept maxDepth) .empty = .ok conversion) : Rising maxDepth conversion := by
  have start : Rising maxDepth .empty := ⟨Nat.zero_le _, .nil⟩
  have step {item : Located Token} {earlier later : Conversion} (rising : Rising maxDepth earlier)
      (accepted : accept maxDepth earlier item = .ok later) : Rising maxDepth later := by
    have moves := accept_eq_ok.1 accepted
    exact ⟨moves.depth_le rising.depth_le, moves.rests rising.rests⟩
  exact @foldlM_preserves _ _ _ _ (fun _ => Rising maxDepth) step [] tokens _ _ start run

end Moves

section Words

variable {depth maxDepth width : Nat} (fits : maxDepth < Nat.pow 2 width)

include fits

theorem toNat_ofNat_of_le {count : Nat} (bound : count ≤ maxDepth) :
    (BitVec.ofNat width count).toNat = count := by
  rw [BitVec.toNat_ofNat]
  exact Nat.mod_eq_of_lt (Nat.lt_of_le_of_lt bound fits)

theorem uaddOverflow_depth (room : depth < maxDepth) :
    (BitVec.ofNat width depth).uaddOverflow (.ofNat width 1) = false := by
  rw [BitVec.uaddOverflow, toNat_ofNat_of_le fits (Nat.le_of_lt room),
    toNat_ofNat_of_le fits (Nat.one_le_of_lt room), decide_eq_false_iff_not, Nat.not_le]
  exact Nat.lt_of_le_of_lt room fits

theorem usubOverflow_depth (opened : 0 < depth) (bound : depth ≤ maxDepth) :
    (BitVec.ofNat width depth).usubOverflow (.ofNat width 1) = false := by
  rw [BitVec.usubOverflow, toNat_ofNat_of_le fits bound,
    toNat_ofNat_of_le fits (Nat.le_trans opened bound), decide_eq_false_iff_not]
  exact Nat.not_lt.2 opened

end Words

section Barriers

variable {token : Located Token} (waits : token.elem.isOp = true ∨ token.elem.isOpening = true)

include waits

theorem noOperand_of_waits :
    token.elem ≠ .paren .closing ∧ ∀ value, token.elem ≠ .num value := by
  constructor
  · intro closing
    simp [closing, Token.isOp, Token.isOpening] at waits
  · intro value number
    simp [number, Token.isOp, Token.isOpening] at waits

theorem known_of_noBarrier (noBarrier : token.elem.isBarrier = false) :
    ∃ sym, token.elem = .op sym ∧ isOperator sym = true := by
  obtain ⟨elem, span⟩ := token
  cases elem with
  | op sym =>
    cases known : isOperator sym with
    | true => exact ⟨sym, rfl, known⟩
    | false =>
      rw [Token.isBarrier, known] at noBarrier
      cases noBarrier
  | num value => simp [Token.isOp, Token.isOpening] at waits
  | paren side =>
    cases side with
    | opening => cases noBarrier
    | closing => simp [Token.isOp, Token.isOpening] at waits

end Barriers

/-- However much of a row has been read, and whatever the row, the depth counts the parentheses that wait, nothing
waits but these and operators, and between barriers the operators stand in layers. -/
theorem orderly_of_run {maxDepth : Nat} {read : Tokens} {conversion : Conversion}
    (run : read.foldlM (accept maxDepth) .empty = .ok conversion) : Orderly maxDepth conversion := by
  have start : Counts .empty := rfl
  have counts := foldlM_counts start run
  obtain ⟨bound, rests⟩ := foldlM_rising run
  have waits := (foldlM_keeps run).waits
  constructor
  case depth_eq =>
    rw [counts, openSpans, List.length_map, List.countP_eq_length_filter]
  case depth_le => exact bound
  case opens =>
    intro token after opening accepted
    have depth := (accept_eq_ok.1 accepted).depth_eq counts
    rw [opening] at depth
    obtain ⟨deeper, room⟩ := depth
    exact ⟨deeper, by omega, fun width fits => uaddOverflow_depth fits room⟩
  case closes =>
    intro token after closing accepted
    have depth := (accept_eq_ok.1 accepted).depth_eq counts
    rw [closing] at depth
    exact ⟨depth, fun width fits => usubOverflow_depth fits (by omega) bound⟩
  case waits => exact fun token member => noOperand_of_waits (waits token member)
  case rests =>
    intro above upper lower below parts one oneKnown other otherKnown
    have adjacent := List.isChain_iff_forall_rel_of_append_cons_cons.1 rests parts
    have holds := precedes_eq_false_iff.1 (adjacent one oneKnown) other otherKnown
    exact ⟨holds, Operator.yieldsTo_eq_false_iff.1 holds⟩
  case layered =>
    intro above between below parts noBarrier
    rw [parts] at rests waits
    apply layered_of_isChain rests.left_of_append.right_of_append
    intro token member
    have inside : token ∈ above ++ between ++ below :=
      List.mem_append_left _ (List.mem_append_right _ member)
    exact known_of_noBarrier (waits token inside) (noBarrier token member)

/-- In `+ * ^ ^ ( - ? ^` every operator waits: three layers below the parenthesis, and above it a sum, a barrier
and a power. -/
theorem orderly_of_run_without_operands :
    let tokens : Tokens := [⟨.op '+', ⟨0, 1⟩⟩, ⟨.op '*', ⟨1, 2⟩⟩, ⟨.op '^', ⟨2, 3⟩⟩, ⟨.op '^', ⟨3, 4⟩⟩,
      ⟨.paren .opening, ⟨4, 5⟩⟩, ⟨.op '-', ⟨5, 6⟩⟩, ⟨.op '?', ⟨6, 7⟩⟩, ⟨.op '^', ⟨7, 8⟩⟩]
    let conversion : Conversion := ⟨#[], ⟨tokens.reverse⟩, 1⟩
    tokens.foldlM (accept 1) .empty = .ok conversion ∧ Orderly 1 conversion := by
  intro tokens conversion
  have run : tokens.foldlM (accept 1) .empty = .ok conversion := by rfl
  exact ⟨run, orderly_of_run run⟩

end Postfix.Conversion

end Reckon
