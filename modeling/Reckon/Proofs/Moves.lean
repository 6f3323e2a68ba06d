import Reckon.Postfix.Conversion
import Reckon.Proofs.Nesting
import Reckon.Proofs.Sequences

/-! What one token does to a conversion. Main statements: a token is accepted by one of five moves and
refused for one of two reasons, and no move loses, doubles or invents a token. -/

namespace Reckon

namespace Postfix.Conversion

/-- An operator finds nothing on top of what waits that it would list first. -/
def Holds (waiting : List (Located Token)) (operator : Operator) : Prop :=
  ∀ token ∈ waiting.head?, precedes operator token = false

inductive Moves (maxDepth : Nat) : Conversion → Located Token → Conversion → Prop
  | lists {listed : Array (Located Token)} {waiting : Stack (Located Token)} {depth : Nat}
      (value : Float) (span : Span) :
      Moves maxDepth ⟨listed, waiting, depth⟩ ⟨.num value, span⟩
        ⟨listed.push ⟨.num value, span⟩, waiting, depth⟩
  | waits {listed : Array (Located Token)} {carried rest : Tokens} {depth : Nat} {sym : Char}
      {operator : Operator} (span : Span) (found : Operator.find? sym = some operator)
      (carries : ∀ token ∈ carried, precedes operator token = true) (holds : Holds rest operator) :
      Moves maxDepth ⟨listed, ⟨carried ++ rest⟩, depth⟩ ⟨.op sym, span⟩
        ⟨listed ++ carried, ⟨⟨.op sym, span⟩ :: rest⟩, depth⟩
  | blocks {listed : Array (Located Token)} {waiting : Tokens} {depth : Nat} {sym : Char}
      (span : Span) (unknown : Operator.find? sym = none) :
      Moves maxDepth ⟨listed, ⟨waiting⟩, depth⟩ ⟨.op sym, span⟩
        ⟨listed, ⟨⟨.op sym, span⟩ :: waiting⟩, depth⟩
  | opens {listed : Array (Located Token)} {waiting : Tokens} {depth : Nat} (span : Span)
      (room : depth < maxDepth) :
      Moves maxDepth ⟨listed, ⟨waiting⟩, depth⟩ ⟨.paren .opening, span⟩
        ⟨listed, ⟨⟨.paren .opening, span⟩ :: waiting⟩, depth + 1⟩
  | closes {listed : Array (Located Token)} {inner outer : Tokens} {depth : Nat}
      (opening span : Span) (inside : ∀ token ∈ inner, notOpening token = true) :
      Moves maxDepth ⟨listed, ⟨inner ++ ⟨.paren .opening, opening⟩ :: outer⟩, depth⟩
        ⟨.paren .closing, span⟩ ⟨listed ++ inner, ⟨outer⟩, depth - 1⟩

theorem popWhile_append {test : Located Token → Bool} {first : Tokens}
    (passes : ∀ token ∈ first, test token = true) (second : Tokens) :
    Stack.popWhile test ⟨first ++ second⟩ =
      (first ++ (Stack.popWhile test ⟨second⟩).1, (Stack.popWhile test ⟨second⟩).2) := by
  simp [Stack.popWhile, List.takeWhile_append_of_pos passes, List.dropWhile_append_of_pos passes]

theorem popWhile_stops {test : Located Token → Bool} {waiting : Tokens}
    (stops : ∀ token ∈ waiting.head?, test token = false) :
    Stack.popWhile test ⟨waiting⟩ = ([], ⟨waiting⟩) := by
  cases waiting with
  | nil => rfl
  | cons token rest =>
    have fails := stops token rfl
    simp [Stack.popWhile, fails]

theorem popWhile_all {test : Located Token → Bool} {waiting : Tokens}
    (passes : ∀ token ∈ waiting, test token = true) :
    Stack.popWhile test ⟨waiting⟩ = (waiting, ⟨[]⟩) := by
  have popped := popWhile_append passes []
  rw [List.append_nil] at popped
  rw [popped]
  simp [Stack.popWhile]

theorem popWhile_opening {inner : Tokens} (inside : ∀ token ∈ inner, notOpening token = true)
    (opening : Span) (outer : Tokens) :
    Stack.popWhile notOpening ⟨inner ++ ⟨.paren .opening, opening⟩ :: outer⟩ =
      (inner, ⟨⟨.paren .opening, opening⟩ :: outer⟩) := by
  have stops : ∀ token ∈ (⟨.paren .opening, opening⟩ :: outer : Tokens).head?,
      notOpening token = false := by
    intro token top
    rw [← Option.some_inj.1 top]
    rfl
  rw [popWhile_append inside, popWhile_stops stops, List.append_nil]

theorem exists_append_of_test (test : Located Token → Bool) (waiting : Tokens) :
    ∃ first second, waiting = first ++ second ∧ (∀ token ∈ first, test token = true) ∧
      ∀ token ∈ second.head?, test token = false := by
  refine ⟨waiting.takeWhile test, waiting.dropWhile test, List.takeWhile_append_dropWhile.symm,
    List.all_eq_true.1 List.all_takeWhile, stops_dropWhile test waiting⟩

theorem eq_opening_of_notOpening {token : Located Token} (opening : notOpening token = false) :
    token = ⟨.paren .opening, token.span⟩ := by
  obtain ⟨elem, span⟩ := token
  cases elem with
  | num value => cases opening
  | op sym => cases opening
  | paren side =>
    cases side with
    | opening => rfl
    | closing => cases opening

theorem all_notOpening_or_exists_opening (waiting : Tokens) :
    (∀ token ∈ waiting, notOpening token = true) ∨
      ∃ inner opening outer, waiting = inner ++ ⟨.paren .opening, opening⟩ :: outer ∧
        ∀ token ∈ inner, notOpening token = true := by
  obtain ⟨inner, second, rfl, inside, stops⟩ := exists_append_of_test notOpening waiting
  cases second with
  | nil =>
    rw [List.append_nil]
    exact .inl inside
  | cons token outer =>
    refine .inr ⟨inner, token.span, outer, ?_, inside⟩
    rw [← eq_opening_of_notOpening (stops token rfl)]

variable {maxDepth : Nat}

theorem operator_of_carried {sym : Char} {operator : Operator}
    (found : Operator.find? sym = some operator) {inner outer : Tokens}
    (carried : ∀ token ∈ inner, precedes operator token = true) (holds : Holds outer operator)
    (listed : Array (Located Token)) (depth : Nat) (token : Located Token) :
    Conversion.operator ⟨listed, ⟨inner ++ outer⟩, depth⟩ sym token =
      ⟨listed ++ inner, ⟨token :: outer⟩, depth⟩ := by
  simp only [Conversion.operator, found, popWhile_append carried, popWhile_stops holds,
    List.append_nil]
  rfl

theorem operator_foreign {sym : Char} (unknown : Operator.find? sym = none)
    (listed : Array (Located Token)) (waiting : Tokens) (depth : Nat) (token : Located Token) :
    Conversion.operator ⟨listed, ⟨waiting⟩, depth⟩ sym token =
      ⟨listed, ⟨token :: waiting⟩, depth⟩ := by
  simp [Conversion.operator, unknown, Stack.push]

theorem operator_first (sym : Char) (listed : Array (Located Token)) (depth : Nat)
    (token : Located Token) :
    Conversion.operator ⟨listed, ⟨[]⟩, depth⟩ sym token = ⟨listed, ⟨[token]⟩, depth⟩ := by
  cases found : Operator.find? sym with
  | none => exact operator_foreign found listed [] depth token
  | some operator => simp [Conversion.operator, found, Stack.popWhile, Stack.push]

theorem opening_of_room {depth : Nat} (room : depth < maxDepth) (listed : Array (Located Token))
    (waiting : Tokens) (token : Located Token) :
    Conversion.opening ⟨listed, ⟨waiting⟩, depth⟩ maxDepth token =
      .ok ⟨listed, ⟨token :: waiting⟩, depth + 1⟩ := by
  rw [Conversion.opening, if_neg (Nat.not_le_of_lt room)]
  rfl

theorem closing_of_inside {inner : Tokens} (inside : ∀ token ∈ inner, notOpening token = true)
    (outer : Tokens) (listed : Array (Located Token)) (depth : Nat) (opening : Span)
    (token : Located Token) :
    Conversion.closing ⟨listed, ⟨inner ++ ⟨.paren .opening, opening⟩ :: outer⟩, depth⟩ token =
      .ok ⟨listed ++ inner, ⟨outer⟩, depth - 1⟩ := by
  simp only [Conversion.closing, popWhile_opening inside]
  rfl

theorem closing_of_none {waiting : Tokens} (inside : ∀ token ∈ waiting, notOpening token = true)
    (listed : Array (Located Token)) (depth : Nat) (token : Located Token) :
    Conversion.closing ⟨listed, ⟨waiting⟩, depth⟩ token =
      .error (.unbalancedParentheses token.span) := by
  simp only [Conversion.closing, popWhile_all inside]
  rfl

theorem Moves.accept {before after : Conversion} {token : Located Token}
    (moves : Moves maxDepth before token after) :
    Conversion.accept maxDepth before token = .ok after := by
  cases moves with
  | lists value span => rfl
  | waits span found carries holds =>
    simp only [Conversion.accept, operator_of_carried found carries holds]
  | blocks span unknown => simp only [Conversion.accept, operator_foreign unknown]
  | opens span room => exact opening_of_room room _ _ _
  | closes opening span inside => exact closing_of_inside inside _ _ _ _ _

theorem accept_cases (maxDepth : Nat) (before : Conversion) (token : Located Token) :
    (∃ after, Moves maxDepth before token after) ∨
      (token.elem = .paren .opening ∧ maxDepth ≤ before.depth) ∨
      (token.elem = .paren .closing ∧
        ∀ waiting ∈ before.waiting.items, notOpening waiting = true) := by
  obtain ⟨listed, ⟨waiting⟩, depth⟩ := before
  obtain ⟨elem, span⟩ := token
  cases elem with
  | num value => exact .inl ⟨_, .lists value span⟩
  | op sym =>
    left
    cases found : Operator.find? sym with
    | none => exact ⟨_, .blocks span found⟩
    | some operator =>
      obtain ⟨carried, rest, rfl, carries, holds⟩ :=
        exists_append_of_test (precedes operator) waiting
      exact ⟨_, .waits span found carries holds⟩
  | paren side =>
    cases side with
    | opening =>
      rcases Nat.lt_or_ge depth maxDepth with room | full
      · exact .inl ⟨_, .opens span room⟩
      · exact .inr (.inl ⟨rfl, full⟩)
    | closing =>
      rcases all_notOpening_or_exists_opening waiting with none | ⟨inner, opening, outer, rfl, inside⟩
      · exact .inr (.inr ⟨rfl, none⟩)
      · exact .inl ⟨_, .closes opening span inside⟩

theorem accept_of_full {before : Conversion} {token : Located Token}
    (opening : token.elem = .paren .opening) (full : maxDepth ≤ before.depth) :
    accept maxDepth before token = .error (.nestingTooDeep maxDepth token.span) := by
  simp only [accept, opening]
  rw [Conversion.opening, if_pos full]

theorem accept_of_alone {before : Conversion} {token : Located Token}
    (closing : token.elem = .paren .closing)
    (alone : ∀ waiting ∈ before.waiting.items, notOpening waiting = true) :
    accept maxDepth before token = .error (.unbalancedParentheses token.span) := by
  simp only [accept, closing]
  exact closing_of_none alone _ _ _

theorem accept_eq_ok {before after : Conversion} {token : Located Token} :
    accept maxDepth before token = .ok after ↔ Moves maxDepth before token after := by
  constructor
  · intro accepted
    rcases accept_cases maxDepth before token with ⟨next, moves⟩ | ⟨opening, full⟩ | ⟨closing, alone⟩
    · have same := moves.accept.symm.trans accepted
      injection same with same
      rw [← same]
      exact moves
    · rw [accept_of_full opening full] at accepted
      cases accepted
    · rw [accept_of_alone closing alone] at accepted
      cases accepted
  · exact Moves.accept

theorem finish_of_closed {waiting : Tokens} (closed : ∀ token ∈ waiting, notOpening token = true)
    (listed : Array (Located Token)) (depth : Nat) :
    finish ⟨listed, ⟨waiting⟩, depth⟩ = .ok (listed.toList ++ waiting) := by
  simp [finish, popWhile_all closed, Stack.peek?]

theorem finish_of_open {inner : Tokens} (inside : ∀ token ∈ inner, notOpening token = true)
    (outer : Tokens) (listed : Array (Located Token)) (depth : Nat) (opening : Span) :
    finish ⟨listed, ⟨inner ++ ⟨.paren .opening, opening⟩ :: outer⟩, depth⟩ =
      .error (.unbalancedParentheses opening) := by
  simp only [finish, popWhile_opening inside]
  rfl

/-- What a conversion holds of the tokens that it has read. Only operators and parentheses that are
still open wait, and the others are listed, each once. -/
structure Keeps (read : Tokens) (conversion : Conversion) : Prop where
  waits : ∀ token ∈ conversion.waiting.items,
    token.elem.isOp = true ∨ token.elem.isOpening = true
  conserved : (conversion.listed.toList ++ withoutParens conversion.waiting.items).Perm
    (withoutParens read)

theorem isOp_of_precedes {operator : Operator} {token : Located Token}
    (carries : precedes operator token = true) : token.elem.isOp = true := by
  obtain ⟨elem, span⟩ := token
  cases elem with
  | op sym => rfl
  | num value => cases carries
  | paren side => cases carries

theorem isOp_of_inside {waiting inner : Tokens}
    (waits : ∀ token ∈ waiting, token.elem.isOp = true ∨ token.elem.isOpening = true)
    (waiting_of_inner : ∀ token ∈ inner, token ∈ waiting)
    (inside : ∀ token ∈ inner, notOpening token = true) :
    ∀ token ∈ inner, token.elem.isOp = true := by
  intro token member
  rcases waits token (waiting_of_inner token member) with operator | opening
  · exact operator
  · have closed := inside token member
    rw [notOpening, opening] at closed
    cases closed

theorem keeps_empty : Keeps [] empty where
  waits := fun _ member => nomatch member
  conserved := .refl []

theorem Keeps.step {read : Tokens} {before after : Conversion} {token : Located Token}
    (keeps : Keeps read before) (moves : Moves maxDepth before token after) :
    Keeps (read ++ [token]) after := by
  obtain ⟨waits, conserved⟩ := keeps
  cases moves with
  | lists value span =>
    refine ⟨waits, ?_⟩
    rw [withoutParens_append, Array.toList_push, List.append_assoc]
    exact perm_insert conserved _
  | @waits listed carried rest depth sym operator span found carries holds =>
    have carriedOps : ∀ token ∈ carried, token.elem.isOp = true := by
      intro token member
      exact isOp_of_precedes (carries token member)
    constructor
    · intro token member
      rcases List.mem_cons.1 member with rfl | below
      · exact .inl rfl
      · exact waits token (List.mem_append_right _ below)
    · rw [withoutParens_append, withoutParens_of_isOp carriedOps, ← List.append_assoc] at conserved
      rw [withoutParens_append, Array.toList_appendList]
      exact perm_insert conserved _
  | blocks span unknown =>
    constructor
    · intro token member
      rcases List.mem_cons.1 member with rfl | below
      · exact .inl rfl
      · exact waits token below
    · rw [withoutParens_append]
      exact perm_insert conserved _
  | opens span room =>
    constructor
    · intro token member
      rcases List.mem_cons.1 member with rfl | below
      · exact .inr rfl
      · exact waits token below
    · rw [withoutParens_append]
      exact (List.append_nil (withoutParens read)).symm ▸ conserved
  | @closes listed inner outer depth opening span inside =>
    have innerOps := isOp_of_inside waits (fun _ => List.mem_append_left _) inside
    constructor
    · intro token member
      exact waits token (List.mem_append_right _ (List.mem_cons_of_mem _ member))
    · rw [withoutParens_append, withoutParens_of_isOp innerOps, ← List.append_assoc] at conserved
      rw [withoutParens_append, Array.toList_appendList]
      exact (List.append_nil (withoutParens read)).symm ▸ conserved

theorem foldlM_keeps {tokens : Tokens} {conversion : Conversion}
    (run : tokens.foldlM (accept maxDepth) empty = .ok conversion) : Keeps tokens conversion :=
  foldlM_preserves (fun keeps accepted => keeps.step (accept_eq_ok.1 accepted)) keeps_empty run

theorem foldlM_moves {holds : Tokens → Conversion → Prop} (initially : holds [] empty)
    (step : ∀ {read before token after}, Keeps read before → holds read before →
      Moves maxDepth before token after → holds (read ++ [token]) after)
    {tokens : Tokens} {conversion : Conversion}
    (run : tokens.foldlM (accept maxDepth) empty = .ok conversion) : holds tokens conversion := by
  have start : Keeps [] empty ∧ holds [] empty := ⟨keeps_empty, initially⟩
  have both {read : Tokens} {token : Located Token} {before after : Conversion}
      (known : Keeps read before ∧ holds read before)
      (accepted : accept maxDepth before token = .ok after) :
      Keeps (read ++ [token]) after ∧ holds (read ++ [token]) after := by
    have moves := accept_eq_ok.1 accepted
    exact ⟨known.1.step moves, step known.1 known.2 moves⟩
  have reached : Keeps tokens conversion ∧ holds tokens conversion :=
    @foldlM_preserves _ _ _ _ (fun read conversion => Keeps read conversion ∧ holds read conversion)
      both [] tokens _ _ start run
  exact reached.2

theorem finish_cases (conversion : Conversion) :
    ((∀ token ∈ conversion.waiting.items, notOpening token = true) ∧
        conversion.finish = .ok (conversion.listed.toList ++ conversion.waiting.items)) ∨
      ∃ inner opening outer, conversion.waiting.items = inner ++ ⟨.paren .opening, opening⟩ :: outer ∧
        (∀ token ∈ inner, notOpening token = true) ∧
          conversion.finish = .error (.unbalancedParentheses opening) := by
  obtain ⟨listed, ⟨waiting⟩, depth⟩ := conversion
  rcases all_notOpening_or_exists_opening waiting with closed | ⟨inner, opening, outer, rfl, inside⟩
  · exact .inl ⟨closed, finish_of_closed closed listed depth⟩
  · exact .inr ⟨inner, opening, outer, rfl, inside, finish_of_open inside outer listed depth opening⟩

end Postfix.Conversion

/-- A listing holds the numbers and operators of its tokens, each once. -/
theorem Postfix.ofTokens_perm {maxDepth : Nat} {tokens listing : Tokens}
    (listed : ofTokens maxDepth tokens = .ok listing) : listing.Perm (withoutParens tokens) := by
  obtain ⟨conversion, run, finished⟩ := bind_eq_ok.1 listed
  obtain ⟨waits, conserved⟩ := Conversion.foldlM_keeps run
  rcases conversion.finish_cases with ⟨closed, ok⟩ | ⟨inner, opening, outer, _, _, error⟩
  · have operators := Conversion.isOp_of_inside waits (fun _ member => member) closed
    rw [withoutParens_of_isOp operators] at conserved
    rw [ok] at finished
    injection finished with finished
    rw [← finished]
    exact conserved
  · rw [error] at finished
    cases finished

theorem Postfix.countP_of_listed {maxDepth : Nat} {tokens listing : Tokens}
    (listed : ofTokens maxDepth tokens = .ok listing) (counted : Token → Bool)
    (noParen : ∀ side, counted (.paren side) = false) :
    listing.countP (counted ·.elem) = tokens.countP (counted ·.elem) := by
  rw [(ofTokens_perm listed).countP_eq, withoutParens, List.countP_filter]
  congr 1
  funext token
  obtain ⟨elem, span⟩ := token
  cases elem with
  | num value => exact Bool.and_true _
  | op sym => exact Bool.and_true _
  | paren side => rw [noParen, Bool.false_and]

end Reckon
