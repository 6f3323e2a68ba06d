import Reckon.Binary64.Bits
import Reckon.Proofs.Seams

/-! Two texts in parentheses with an operator between them. Main statement: the outcome of the whole is
the operator applied to the outcomes of the parts, and a part that divides by zero is blamed in its place
in the whole. -/

namespace Reckon

open Postfix (apply ofTokens reckon)
open Postfix.Conversion (accept finish finish_of_closed foldlM_enclosed notOpening operator_first)

def joined (first : String) (sym : Char) (second : String) : String :=
  "(" ++ first ++ ")" ++ String.singleton sym ++ "(" ++ second ++ ")"

def ofDivision (division : Except Span Float) : Outcome :=
  division.mapError fun span => .eval (.divisionByZero span)

section Marks

open Text (marks byteLength)

variable {sym : Char} {first second : String}

theorem toList_joined : (joined first sym second).toList =
    ("(" ++ first ++ ")").toList ++ sym :: ("(" ++ second ++ ")").toList := by
  simp [joined]

theorem marks_joined (known : isOperator sym = true) :
    marks 0 (joined first sym second).toList =
      ⟨'(', ⟨0, 1⟩⟩ :: ((marks 0 first.toList).map (Relocation.shift 1).item ++
        ⟨')', ⟨first.utf8ByteSize + 1, first.utf8ByteSize + 2⟩⟩ ::
        ⟨sym, ⟨first.utf8ByteSize + 2, first.utf8ByteSize + 3⟩⟩ ::
        ⟨'(', ⟨first.utf8ByteSize + 3, first.utf8ByteSize + 4⟩⟩ ::
        ((marks 0 second.toList).map (Relocation.shift (first.utf8ByteSize + 4)).item ++
          [⟨')', ⟨first.utf8ByteSize + 4 + second.utf8ByteSize,
            first.utf8ByteSize + 4 + second.utf8ByteSize + 1⟩⟩])) := by
  have behind : 0 + 1 + first.utf8ByteSize = first.utf8ByteSize + 1 := by omega
  rw [toList_joined, Text.marks_append, Text.marks_group, Text.byteLength_toList,
    Text.utf8ByteSize_group, Text.marks_cons_mark (isBlank_of_isOperator known),
    utf8Size_of_isOperator known, Text.marks_group, Nat.zero_add, behind]
  simp

end Marks

theorem tokenize_joined {sym : Char} {first second : String} {front back : Tokens}
    (known : isOperator sym = true) (firstRead : tokenize first = .ok front)
    (secondRead : tokenize second = .ok back) :
    tokenize (joined first sym second) =
      .ok (enclosed ⟨0, 1⟩ ⟨first.utf8ByteSize + 1, first.utf8ByteSize + 2⟩
          (front.map (Relocation.shift 1).item) ++
        ⟨.op sym, ⟨first.utf8ByteSize + 2, first.utf8ByteSize + 3⟩⟩ ::
        enclosed ⟨first.utf8ByteSize + 3, first.utf8ByteSize + 4⟩
          ⟨first.utf8ByteSize + 4 + second.utf8ByteSize,
            first.utf8ByteSize + 4 + second.utf8ByteSize + 1⟩
          (back.map (Relocation.shift (first.utf8ByteSize + 4)).item)) := by
  have inFront := (tokenizes_iff.1 firstRead).relocate (Relocation.shift 1)
  have inBack := (tokenizes_iff.1 secondRead).relocate (Relocation.shift (first.utf8ByteSize + 4))
  rw [tokenizes_iff, marks_joined known]
  refine tokenizes_group.2 ⟨_, _, rfl, inFront, ?_⟩
  refine (tokenizes_operator known).2 ⟨_, rfl, ?_⟩
  exact tokenizes_group.2 ⟨_, _, (List.append_nil _).symm, inBack, tokenizes_nil true⟩

section Listing

variable {maxDepth greater : Nat} {first second front back : Tokens}

theorem ofTokens_joined (firstListed : ofTokens maxDepth first = .ok front)
    (secondListed : ofTokens maxDepth second = .ok back)
    (firstShallow : Paren.deepest 1 (parens first) ≤ greater)
    (secondShallow : Paren.deepest 1 (parens second) ≤ greater)
    (opening closing behindOpening behindClosing place : Span) (sym : Char) :
    ofTokens greater (enclosed opening closing first ++ ⟨.op sym, place⟩ ::
        enclosed behindOpening behindClosing second) =
      .ok (front ++ back ++ [⟨.op sym, place⟩]) := by
  have frontRun := foldlM_enclosed firstListed #[] [] firstShallow opening closing
  have waits (done : Array (Located Token)) : accept greater ⟨done, ⟨[]⟩, 0⟩ ⟨.op sym, place⟩ =
      .ok ⟨done, ⟨[⟨.op sym, place⟩]⟩, 0⟩ := by
    simp only [accept, operator_first]
  have backRun (done : Array (Located Token)) := foldlM_enclosed secondListed done
    [⟨.op sym, place⟩] secondShallow behindOpening behindClosing
  have closed : ∀ token ∈ ([⟨.op sym, place⟩] : Tokens), notOpening token = true := by
    intro token member
    rw [List.mem_singleton.1 member]
    rfl
  change (List.foldlM (accept greater) ⟨#[], ⟨[]⟩, 0⟩ _).bind finish = _
  rw [foldlM_append_of_ok frontRun, foldlM_cons_of_ok (waits _), backRun]
  refine (finish_of_closed closed _ _).trans ?_
  simp

theorem evaluate_joined_listings {left right : Except Span Float}
    (firstValue : Postfix.evaluate front = left.mapError .divisionByZero)
    (secondValue : Postfix.evaluate back = right.mapError .divisionByZero) (sym : Char)
    (place : Span) :
    Postfix.evaluate (front ++ back ++ [⟨.op sym, place⟩]) =
      (left.mapError .divisionByZero).bind fun a =>
        (right.mapError .divisionByZero).bind fun b => apply sym a b place := by
  have firstRun := Postfix.foldlM_of_evaluate firstValue .empty
  have secondRun := Postfix.foldlM_of_evaluate secondValue
  unfold Postfix.evaluate
  rw [List.append_assoc, List.foldlM_append, firstRun]
  cases left with
  | error span => rfl
  | ok a =>
    change (List.foldlM reckon (Stack.empty.push a) _).bind Postfix.result = _
    rw [List.foldlM_append, secondRun]
    cases right with
    | error span => rfl
    | ok b =>
      have step : reckon ⟨[b, a]⟩ ⟨.op sym, place⟩ =
          (apply sym a b place).map fun value => ⟨[value]⟩ := rfl
      change (List.foldlM reckon ⟨[b, a]⟩ _).bind Postfix.result = apply sym a b place
      rw [List.foldlM_cons, step]
      cases apply sym a b place <;> rfl

end Listing

theorem exists_listing_of_division {limits : Limits} {expression : String}
    {division : Except Span Float} (outcome : limits.evaluate expression = ofDivision division) :
    ∃ tokens listing, tokenize expression = .ok tokens ∧
      ofTokens limits.maxNestingDepth tokens = .ok listing ∧
        Postfix.evaluate listing = division.mapError .divisionByZero := by
  cases division with
  | ok value => exact Limits.evaluate_eq_ok outcome
  | error span =>
    rcases Limits.evaluate_eq_error outcome with
      long | ⟨error, _, unread⟩ | ⟨tokens, read, ⟨error, _, unlisted⟩ | valueless⟩
    · cases long
    · cases unread
    · cases unlisted
    · obtain ⟨listing, error, listed, failed, same⟩ := valueless
      cases same
      exact ⟨tokens, listing, read, listed, failed⟩

section Moved

variable {maxDepth : Nat} {tokens listing : Tokens} {division : Except Span Float}
  (places : Relocation)

theorem deepest_one_le (listed : ofTokens maxDepth tokens = .ok listing) :
    Paren.deepest 1 (parens (tokens.map places.item)) ≤ maxDepth + 1 := by
  have balanced : checkParens maxDepth [] tokens = .ok () := by
    rw [← Postfix.ofTokens_outcome, listed]
    rfl
  have sides : parens (tokens.map places.item) = parens tokens := by
    rw [parens, List.filterMap_map]
    rfl
  have shallow : Paren.deepest 0 (parens tokens) ≤ maxDepth :=
    deepest_le_of_checkParens (Nat.zero_le _) balanced
  rw [sides]
  exact Nat.le_trans (Paren.deepest_succ_bounds 0 _).2 (Nat.succ_le_succ shallow)

theorem evaluate_moved
    (outcome : Postfix.evaluate listing = division.mapError .divisionByZero) :
    Postfix.evaluate (listing.map places.item) =
      (division.mapError places.span).mapError .divisionByZero := by
  rw [places.evaluate_item, outcome]
  cases division <;> rfl

end Moved

section Joined

variable {limits wide : Limits} {first second : String} {sym : Char} {left right : Except Span Float}

theorem evaluate_joined_eq (known : isOperator sym = true)
    (firstOutcome : limits.evaluate first = ofDivision left)
    (secondOutcome : limits.evaluate second = ofDivision right)
    (short : (joined first sym second).utf8ByteSize ≤ wide.maxInputLen)
    (deep : limits.maxNestingDepth + 1 ≤ wide.maxNestingDepth) :
    wide.evaluate (joined first sym second) =
      (((left.mapError (Relocation.shift 1).span).mapError .divisionByZero).bind fun a =>
        ((right.mapError (Relocation.shift (first.utf8ByteSize + 4)).span).mapError
          .divisionByZero).bind fun b =>
            apply sym a b ⟨first.utf8ByteSize + 2, first.utf8ByteSize + 3⟩).mapError .eval := by
  obtain ⟨front, frontListing, firstRead, firstListed, firstValue⟩ :=
    exists_listing_of_division firstOutcome
  obtain ⟨back, backListing, secondRead, secondListed, secondValue⟩ :=
    exists_listing_of_division secondOutcome
  have frontShallow := Nat.le_trans (deepest_one_le (Relocation.shift 1) firstListed) deep
  have backShallow := Nat.le_trans
    (deepest_one_le (Relocation.shift (first.utf8ByteSize + 4)) secondListed) deep
  have listed := ofTokens_joined (Relocation.ofTokens_item_of_ok _ firstListed)
    (Relocation.ofTokens_item_of_ok _ secondListed) frontShallow backShallow
  rw [Limits.evaluate_of_short short, tokenize_joined known firstRead secondRead,
    reckonTokens_of_listed (listed _ _ _ _ _ _),
    evaluate_joined_listings (evaluate_moved _ firstValue) (evaluate_moved _ secondValue)]

/-- Of any two texts that come to a value or divide by zero, the whole comes to what the operator makes of
their values. It divides by zero where the first text does, or else where the second one does, or else at
the operator itself. -/
theorem evaluate_joined (known : isOperator sym = true)
    (firstOutcome : limits.evaluate first = ofDivision left)
    (secondOutcome : limits.evaluate second = ofDivision right)
    (short : (joined first sym second).utf8ByteSize ≤ wide.maxInputLen)
    (deep : limits.maxNestingDepth + 1 ≤ wide.maxNestingDepth) :
    (∀ span, left = .error span → wide.evaluate (joined first sym second) =
      .error (.eval (.divisionByZero ⟨span.start + 1, span.stop + 1⟩))) ∧
    (∀ a span, left = .ok a → right = .error span → wide.evaluate (joined first sym second) =
      .error (.eval (.divisionByZero
        ⟨span.start + (first.utf8ByteSize + 4), span.stop + (first.utf8ByteSize + 4)⟩))) ∧
    ∀ a b, left = .ok a → right = .ok b →
      (sym = '/' ∧ (b = 0 ∨ b = -0) → wide.evaluate (joined first sym second) =
        .error (.eval (.divisionByZero ⟨first.utf8ByteSize + 2, first.utf8ByteSize + 3⟩))) ∧
      (¬(sym = '/' ∧ (b = 0 ∨ b = -0)) →
        ∃ value, apply sym a b ⟨first.utf8ByteSize + 2, first.utf8ByteSize + 3⟩ = .ok value ∧
          wide.evaluate (joined first sym second) = .ok value) := by
  rw [evaluate_joined_eq known firstOutcome secondOutcome short deep]
  refine ⟨?_, ?_, ?_⟩
  · rintro span rfl
    rfl
  · rintro a span rfl rfl
    rfl
  · rintro a b rfl rfl
    have applied := Postfix.apply_of_isOperator known a b
      ⟨first.utf8ByteSize + 2, first.utf8ByteSize + 3⟩
    simp only [Binary64.beq_zero_iff] at applied
    constructor
    · intro zero
      rw [if_pos zero] at applied
      simp only [Except.mapError, Except.bind, applied]
    · intro nonzero
      rw [if_neg nonzero] at applied
      obtain ⟨value, applied⟩ := applied
      refine ⟨value, applied, ?_⟩
      simp only [Except.mapError, Except.bind, applied]

end Joined

/-- Neither part follows the grammar, and the second one divides by zero behind its own operands. -/
theorem evaluate_joined_postfix_parts :
    let limits : Limits := ⟨8, 1⟩
    let wide : Limits := ⟨20, 2⟩
    isOperator '-' = true ∧ limits.evaluate "(2)(3)+" = ofDivision (.ok 5) ∧
      limits.evaluate "(1)(0)/" = ofDivision (.error ⟨6, 7⟩) ∧
        (joined "(2)(3)+" '-' "(1)(0)/").utf8ByteSize ≤ wide.maxInputLen ∧
          limits.maxNestingDepth + 1 ≤ wide.maxNestingDepth ∧
            wide.evaluate "((2)(3)+)-((1)(0)/)" =
              .error (.eval (.divisionByZero ⟨17, 18⟩)) := by
  intro limits wide
  have value : limits.evaluate "(2)(3)+" = ofDivision (.ok 5) := by decide +kernel
  have divides : limits.evaluate "(1)(0)/" = ofDivision (.error ⟨6, 7⟩) := by decide +kernel
  have known : isOperator '-' = true := by decide
  have short : (joined "(2)(3)+" '-' "(1)(0)/").utf8ByteSize ≤ wide.maxInputLen := by decide
  have deep : limits.maxNestingDepth + 1 ≤ wide.maxNestingDepth := by decide
  obtain ⟨_, behindValue, _⟩ := evaluate_joined known value divides short deep
  exact ⟨known, value, divides, short, deep, behindValue 5 ⟨6, 7⟩ rfl rfl⟩

end Reckon
