import Reckon.Expr
import Reckon.Proofs.Moves
import Reckon.Proofs.Operators

/-! Rows of tokens that stand for a tree. Main statement: the listing of such a row is the listing of
its tree, whatever is listed and waits already. -/

namespace Reckon

/-- A row of tokens groups as a tree. Beside the tree stands the operator that is carried out last,
unless the row is one operand, and whether an operator outside the table waits for all that follows:
such an operator takes one operand on its left and the whole rest on its right. -/
inductive Groups : Tokens → Expr → Option Operator → Bool → Prop
  | num (value : Float) (span : Span) : Groups [⟨.num value, span⟩] (.num value span) none false
  | paren {inner : Tokens} {tree : Expr} {top : Option Operator} {greedy : Bool}
      (opening closing : Span) (groups : Groups inner tree top greedy) :
      Groups (⟨.paren .opening, opening⟩ :: (inner ++ [⟨.paren .closing, closing⟩])) tree none false
  | operator {sym : Char} {operator : Operator} {left right : Tokens} {leftTree rightTree : Expr}
      {leftTop rightTop : Option Operator} {greedy : Bool} (span : Span)
      (found : Operator.find? sym = some operator)
      (leftGroups : Groups left leftTree leftTop false)
      (rightGroups : Groups right rightTree rightTop greedy)
      (leftBinds : ∀ inner ∈ leftTop, operator.yieldsTo inner = true)
      (rightBinds : ∀ inner ∈ rightTop, inner.yieldsTo operator = false) :
      Groups (left ++ ⟨.op sym, span⟩ :: right) (.node sym span leftTree rightTree)
        (some operator) greedy
  | foreign {sym : Char} {left right : Tokens} {leftTree rightTree : Expr}
      {rightTop : Option Operator} {greedy : Bool} (span : Span)
      (unknown : Operator.find? sym = none)
      (leftGroups : Groups left leftTree none false)
      (rightGroups : Groups right rightTree rightTop greedy) :
      Groups (left ++ ⟨.op sym, span⟩ :: right) (.node sym span leftTree rightTree) none true

theorem Groups.openBehind_parens {tokens : Tokens} {tree : Expr} {top : Option Operator}
    {greedy : Bool} (groups : Groups tokens tree top greedy) (opened : Nat) :
    Paren.openBehind opened (parens tokens) = opened := by
  induction groups generalizing opened with
  | num value span => rfl
  | paren opening closing groups ih =>
    change Paren.openBehind (opened + 1) (parens (_ ++ _)) = opened
    rw [parens_append, Paren.openBehind_append, ih]
    rfl
  | operator span found leftGroups rightGroups leftBinds rightBinds left right =>
    rw [parens_append, Paren.openBehind_append, left]
    exact right opened
  | foreign span unknown leftGroups rightGroups left right =>
    rw [parens_append, Paren.openBehind_append, left]
    exact right opened

theorem Groups.shallow_operands {left right : Tokens} {leftTree : Expr} {top : Option Operator}
    {greedy : Bool} (leftGroups : Groups left leftTree top greedy) {sym : Char} {span : Span}
    {depth maxDepth : Nat}
    (shallow : Paren.deepest depth (parens (left ++ ⟨.op sym, span⟩ :: right)) ≤ maxDepth) :
    Paren.deepest depth (parens left) ≤ maxDepth ∧
      Paren.deepest depth (parens right) ≤ maxDepth := by
  rw [parens_append, Paren.deepest_append, leftGroups.openBehind_parens] at shallow
  exact Nat.max_le.1 shallow

namespace Postfix.Conversion

/-- What a row of tokens leaves behind: a part of its listing is listed and the other waits, which
is nothing for a single operand. An operator to which all of the row yields lists what waits. -/
structure Leaves (tree : Expr) (top : Option Operator) (greedy : Bool)
    (listed waiting : List (Located Token)) : Prop where
  listing : listed ++ waiting = tree.listing
  inside : ∀ token ∈ waiting, notOpening token = true
  nothingWaits : top = none → greedy = false → waiting = []
  carried : greedy = false → ∀ incoming : Operator,
    (∀ inner ∈ top, incoming.yieldsTo inner = true) → ∀ token ∈ waiting, precedes incoming token = true

theorem precedes_op {sym : Char} {inner : Operator} (found : Operator.find? sym = some inner)
    (incoming : Operator) (span : Span) :
    precedes incoming ⟨.op sym, span⟩ = incoming.yieldsTo inner := by
  simp [precedes, found]

theorem Holds.of_yieldsTo {waiting : List (Located Token)} {operator inner : Operator}
    (holds : Holds waiting operator) (tighter : operator.yieldsTo inner = true) :
    Holds waiting inner := by
  intro token top
  have refused := holds token top
  cases found : precedes inner token with
  | false => rfl
  | true =>
    simp only [precedes] at found refused
    split at found
    · next sym elem =>
      simp only [elem] at refused
      cases lookup : Operator.find? sym with
      | none => simp [lookup] at found
      | some third =>
        simp only [lookup, Option.any_some] at found refused
        rw [Operator.yieldsTo_trans tighter found] at refused
        cases refused
    · cases found

variable {maxDepth : Nat}

theorem Leaves.operand {tree : Expr} {listed : List (Located Token)}
    (listing : listed = tree.listing) (top : Option Operator) (greedy : Bool) :
    Leaves tree top greedy listed [] where
  listing := by rw [List.append_nil, listing]
  inside := fun _ member => nomatch member
  nothingWaits := fun _ _ => rfl
  carried := fun _ _ _ _ member => nomatch member

theorem Leaves.node {leftTree rightTree : Expr} {top rightTop : Option Operator}
    {greedy rightGreedy : Bool} {done inner : List (Located Token)} {sym : Char} {span : Span}
    (right : Leaves rightTree rightTop rightGreedy done inner)
    (noOperand : top = none → greedy = true)
    (carried : greedy = false → ∀ incoming : Operator,
      (∀ last ∈ top, incoming.yieldsTo last = true) →
        ∀ token ∈ inner ++ [⟨.op sym, span⟩], precedes incoming token = true) :
    Leaves (.node sym span leftTree rightTree) top greedy (leftTree.listing ++ done)
      (inner ++ [⟨.op sym, span⟩]) where
  listing := by simp [Expr.listing, ← right.listing]
  inside := by
    intro token member
    rcases List.mem_append.1 member with inside | last
    · exact right.inside token inside
    · rw [List.mem_singleton.1 last]
      rfl
  nothingWaits := fun none closed => by
    rw [noOperand none] at closed
    cases closed
  carried := carried

theorem Leaves.carried_operator {rightTree : Expr} {rightTop : Option Operator} {greedy : Bool}
    {done inner : List (Located Token)} {sym : Char} {operator : Operator} (span : Span)
    (found : Operator.find? sym = some operator)
    (right : Leaves rightTree rightTop greedy done inner)
    (rightBinds : ∀ last ∈ rightTop, last.yieldsTo operator = false) (closed : greedy = false)
    (incoming : Operator) (yields : incoming.yieldsTo operator = true) :
    ∀ token ∈ inner ++ [⟨.op sym, span⟩], precedes incoming token = true := by
  intro token member
  rcases List.mem_append.1 member with inside | last
  · refine right.carried closed incoming ?_ token inside
    intro inner top
    exact Operator.yieldsTo_of_not_yieldsTo yields (rightBinds inner top)
  · rw [List.mem_singleton.1 last, precedes_op found, yields]

theorem foldlM_accept {tokens : Tokens} {tree : Expr} {top : Option Operator} {greedy : Bool}
    (groups : Groups tokens tree top greedy) (listed : Array (Located Token))
    (outer : List (Located Token)) (depth : Nat)
    (holds : ∀ operator ∈ top, Holds outer operator)
    (shallow : Paren.deepest depth (parens tokens) ≤ maxDepth) :
    ∃ done inner, Leaves tree top greedy done inner ∧
      tokens.foldlM (accept maxDepth) ⟨listed, ⟨outer⟩, depth⟩ =
        .ok ⟨listed ++ done, ⟨inner ++ outer⟩, depth⟩ := by
  -- What waits outside is arbitrary, as long as the last operator of the row holds on it.
  induction groups generalizing listed outer depth with
  | num value span =>
    refine ⟨[⟨.num value, span⟩], [], .operand rfl none false, ?_⟩
    rw [Array.appendList_cons]
    exact foldlM_cons_of_ok (by simp [accept]) []
  | @paren inner tree top greedy openSpan closeSpan groups ih =>
    have inside : Paren.deepest (depth + 1) (parens inner) ≤ maxDepth := by
      change Paren.deepest (depth + 1) (parens (inner ++ _)) ≤ maxDepth at shallow
      rw [parens_append, Paren.deepest_append] at shallow
      exact Nat.le_trans (Nat.le_max_left _ _) shallow
    have room : depth < maxDepth := Nat.lt_of_lt_of_le (Paren.le_deepest _ _) inside
    have barrier : ∀ operator ∈ top, Holds (⟨.paren .opening, openSpan⟩ :: outer) operator := by
      intro operator _ token head
      rw [← Option.some_inj.1 head]
      rfl
    have opened : accept maxDepth ⟨listed, ⟨outer⟩, depth⟩ ⟨.paren .opening, openSpan⟩ =
        .ok ⟨listed, ⟨⟨.paren .opening, openSpan⟩ :: outer⟩, depth + 1⟩ :=
      opening_of_room room listed outer _
    obtain ⟨done, waiting, leaves, run⟩ := ih listed _ (depth + 1) barrier inside
    refine ⟨done ++ waiting, [], .operand leaves.listing none false, ?_⟩
    rw [foldlM_cons_of_ok opened, foldlM_append_of_ok run, ← append_append_list]
    exact foldlM_cons_of_ok (closing_of_inside leaves.inside outer _ _ _ _) []
  | @operator sym operator left right leftTree rightTree leftTop rightTop greedy span found leftGroups
      rightGroups leftBinds rightBinds leftRun rightRun =>
    obtain ⟨leftShallow, rightShallow⟩ := leftGroups.shallow_operands shallow
    have outerHolds : Holds outer operator := holds operator rfl
    have leftHolds : ∀ inner ∈ leftTop, Holds outer inner := by
      intro inner top
      exact outerHolds.of_yieldsTo (leftBinds inner top)
    obtain ⟨leftDone, leftWaiting, leftLeaves, leftRun⟩ :=
      leftRun listed outer depth leftHolds leftShallow
    have operatorRun : accept maxDepth ⟨listed ++ leftDone, ⟨leftWaiting ++ outer⟩, depth⟩
        ⟨.op sym, span⟩ = .ok ⟨listed ++ leftTree.listing, ⟨⟨.op sym, span⟩ :: outer⟩, depth⟩ := by
      simp only [accept]
      rw [operator_of_carried found (leftLeaves.carried rfl operator leftBinds) outerHolds,
        append_append_list, leftLeaves.listing]
    have rightHolds : ∀ inner ∈ rightTop, Holds (⟨.op sym, span⟩ :: outer) inner := by
      intro inner top token head
      rw [← Option.some_inj.1 head, precedes_op found]
      exact rightBinds inner top
    obtain ⟨rightDone, rightWaiting, rightLeaves, rightRun⟩ :=
      rightRun (listed ++ leftTree.listing) (⟨.op sym, span⟩ :: outer) depth rightHolds rightShallow
    refine ⟨leftTree.listing ++ rightDone, rightWaiting ++ [⟨.op sym, span⟩], ?_, ?_⟩
    · refine rightLeaves.node (by simp) fun closed incoming yields => ?_
      exact rightLeaves.carried_operator span found rightBinds closed incoming (yields operator rfl)
    · rw [foldlM_append_of_ok leftRun, foldlM_cons_of_ok operatorRun, rightRun, append_append_list]
      simp
  | @foreign sym left right leftTree rightTree rightTop greedy span unknown leftGroups rightGroups
      leftRun rightRun =>
    obtain ⟨leftShallow, rightShallow⟩ := leftGroups.shallow_operands shallow
    obtain ⟨leftDone, leftWaiting, leftLeaves, leftRun⟩ :=
      leftRun listed outer depth (by simp) leftShallow
    have leftListed := leftLeaves.listing
    rw [leftLeaves.nothingWaits rfl rfl, List.append_nil] at leftListed
    rw [leftLeaves.nothingWaits rfl rfl, leftListed, List.nil_append] at leftRun
    have operatorRun : accept maxDepth ⟨listed ++ leftTree.listing, ⟨outer⟩, depth⟩
        ⟨.op sym, span⟩ = .ok ⟨listed ++ leftTree.listing, ⟨⟨.op sym, span⟩ :: outer⟩, depth⟩ := by
      simp only [accept]
      rw [operator_foreign unknown]
    have rightHolds : ∀ inner ∈ rightTop, Holds (⟨.op sym, span⟩ :: outer) inner := by
      intro inner top token head
      rw [← Option.some_inj.1 head]
      simp [precedes, unknown]
    obtain ⟨rightDone, rightWaiting, rightLeaves, rightRun⟩ :=
      rightRun (listed ++ leftTree.listing) (⟨.op sym, span⟩ :: outer) depth rightHolds rightShallow
    refine ⟨leftTree.listing ++ rightDone, rightWaiting ++ [⟨.op sym, span⟩],
      rightLeaves.node (fun _ => rfl) (by simp), ?_⟩
    rw [foldlM_append_of_ok leftRun, foldlM_cons_of_ok operatorRun, rightRun, append_append_list]
    simp

end Postfix.Conversion

theorem Groups.ofTokens {tokens : Tokens} {tree : Expr} {top : Option Operator} {greedy : Bool}
    (groups : Groups tokens tree top greedy) {maxDepth : Nat}
    (shallow : Paren.deepest 0 (parens tokens) ≤ maxDepth) :
    Postfix.ofTokens maxDepth tokens = .ok tree.listing := by
  obtain ⟨done, waiting, leaves, run⟩ := Postfix.Conversion.foldlM_accept groups #[] [] 0
    (fun _ _ _ none => nomatch none) shallow
  unfold Postfix.ofTokens Postfix.Conversion.empty Stack.empty
  rw [run, ← leaves.listing]
  change Postfix.Conversion.finish _ = _
  rw [Postfix.Conversion.finish, Postfix.Conversion.popWhile_append leaves.inside]
  simp [Stack.popWhile, Stack.peek?]

/-- An operator and one more operand behind a row that groups: the whole groups too. The operator takes
what it yields to on its left, and else goes on in the right operand. -/
theorem Groups.extend {tokens : Tokens} {tree : Expr} {top : Option Operator} {greedy : Bool}
    (groups : Groups tokens tree top greedy) (sym : Char) (span : Span) {last : Tokens}
    {lastTree : Expr} (operand : Groups last lastTree none false) :
    ∃ newTree newTop newGreedy, Groups (tokens ++ ⟨.op sym, span⟩ :: last) newTree newTop newGreedy ∧
      ∀ operator ∈ newTop, operator ∈ top ∨ greedy = false ∧ Operator.find? sym = some operator := by
  have behindOperand {first : Tokens} {firstTree : Expr} (single : Groups first firstTree none false) :
      ∃ newTree newTop newGreedy, Groups (first ++ ⟨.op sym, span⟩ :: last) newTree newTop newGreedy ∧
        ∀ operator ∈ newTop, operator ∈ (none : Option Operator) ∨
          false = false ∧ Operator.find? sym = some operator := by
    cases found : Operator.find? sym with
    | none => exact ⟨_, none, true, .foreign span found single operand, nofun⟩
    | some operator =>
      refine ⟨_, some operator, false, .operator span found single operand nofun nofun, ?_⟩
      intro same member
      exact .inr ⟨rfl, member⟩
  induction groups with
  | num value place => exact behindOperand (.num value place)
  | paren opening closing inside ih => exact behindOperand (.paren opening closing inside)
  | @operator sym' outer left right leftTree rightTree leftTop rightTop greedy place outerFound
      leftGroups rightGroups leftBinds rightBinds leftStep rightStep =>
    by_cases takes : greedy = false ∧
        ∃ operator, Operator.find? sym = some operator ∧ operator.yieldsTo outer = true
    · obtain ⟨rfl, operator, found, yields⟩ := takes
      have whole := Groups.operator place outerFound leftGroups rightGroups leftBinds rightBinds
      refine ⟨_, some operator, false, .operator span found whole operand ?_ nofun, ?_⟩
      · intro inner same
        rw [← Option.some_inj.1 same]
        exact yields
      · intro same member
        exact .inr ⟨rfl, found.trans member⟩
    · obtain ⟨newTree, newTop, newGreedy, newGroups, origin⟩ := rightStep
      rw [List.append_assoc, List.cons_append]
      refine ⟨_, some outer, newGreedy,
        .operator place outerFound leftGroups newGroups leftBinds ?_, fun _ same => .inl same⟩
      intro inner member
      rcases origin inner member with old | ⟨notGreedy, found⟩
      · exact rightBinds inner old
      · rw [Bool.eq_false_iff]
        intro yields
        exact takes ⟨notGreedy, inner, found, yields⟩
  | foreign place unknown leftGroups rightGroups leftStep rightStep =>
    obtain ⟨newTree, newTop, newGreedy, newGroups, _⟩ := rightStep
    rw [List.append_assoc, List.cons_append]
    exact ⟨_, none, true, .foreign place unknown leftGroups newGroups, nofun⟩

end Reckon
