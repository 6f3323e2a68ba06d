import Reckon.Proofs.Cutoff
import Reckon.Proofs.Enclosure
import Reckon.Proofs.Partners

/-! Rows in parentheses as atoms. Main statement: a row whose parentheses are in order, in parentheses of its
own, is to the conversion what a number is, whatever stands around it and whether or not it has a value. -/

namespace Reckon

namespace Closed

variable {tokens : Tokens} {maxDepth : Nat}

theorem checkParens_append (closed : Closed tokens) {opened : List Span}
    (shallow : Paren.deepest opened.length (parens tokens) ≤ maxDepth) (rest : Tokens) :
    checkParens maxDepth opened (tokens ++ rest) = checkParens maxDepth opened rest := by
  induction closed generalizing opened rest with
  | nil => rfl
  | @other token tail noParen behind ih =>
    rw [parens, List.filterMap_cons, noParen] at shallow
    rw [List.cons_append, checkParens_other noParen]
    exact ih shallow rest
  | @group inner tail opening closing inside behind ihInside ihBehind =>
    have room : Paren.deepest (opened.length + 1)
        (parens (inner ++ ⟨.paren .closing, closing⟩ :: tail)) ≤ maxDepth := shallow
    rw [parens_append, Paren.deepest_append, inside.openBehind] at room
    have within : Paren.deepest (opening :: opened).length (parens inner) ≤ maxDepth :=
      (Nat.max_le.1 room).1
    obtain ⟨less, tailShallow⟩ := Nat.max_le.1 (Nat.max_le.1 room).2
    calc
      _ = checkParens maxDepth (opening :: opened)
            (inner ++ ⟨.paren .closing, closing⟩ :: (tail ++ rest)) := by
        rw [List.cons_append, checkParens_room less, List.append_assoc, List.cons_append]
      _ = checkParens maxDepth (opening :: opened) (⟨.paren .closing, closing⟩ :: (tail ++ rest)) :=
        ihInside within _
      _ = checkParens maxDepth opened (tail ++ rest) := checkParens_closing _ _ _ _
      _ = checkParens maxDepth opened rest := ihBehind tailShallow rest

theorem exists_listing (closed : Closed tokens) : ∃ listing, ∀ depth,
    Paren.deepest 0 (parens tokens) ≤ depth → Postfix.ofTokens depth tokens = .ok listing := by
  have passes : checkParens (Paren.deepest 0 (parens tokens)) [] tokens = .ok () := by
    have room : Paren.deepest ([] : List Span).length (parens tokens) ≤
        Paren.deepest 0 (parens tokens) := Nat.le_refl _
    have whole := closed.checkParens_append room []
    rw [List.append_nil] at whole
    exact whole
  rw [← Postfix.ofTokens_outcome] at passes
  cases listed : Postfix.ofTokens (Paren.deepest 0 (parens tokens)) tokens with
  | error failure =>
    rw [listed] at passes
    cases passes
  | ok listing =>
    refine ⟨listing, ?_⟩
    intro depth wider
    rcases Postfix.ofTokens_deeper wider tokens with ⟨same, _⟩ | ⟨_, _, _, _, tooDeep, _⟩
    · rw [same, listed]
    · rw [listed] at tooDeep
      cases tooDeep

end Closed

/-- A row in which every parenthesis has its partner has one listing, and in parentheses it may stand where a
number stands. The row with the group has a listing if the row with the number has one, and the listing
of the group then stands in the place of the number among the other numbers. Else both fail alike. -/
theorem ofTokens_closed_group {maxDepth : Nat} {front inner : Tokens} (closed : Closed inner)
    (shallow : openCount front + 1 + Paren.deepest 0 (parens inner) ≤ maxDepth)
    (opening closing place : Span) (number : Float) (back : Tokens) :
    ∃ listing,
      (∀ depth, Paren.deepest 0 (parens inner) ≤ depth → Postfix.ofTokens depth inner = .ok listing) ∧
      (∀ whole, Postfix.ofTokens maxDepth (front ++ ⟨.num number, place⟩ :: back) = .ok whole →
        ∃ before behind, whole = before ++ ⟨.num number, place⟩ :: behind ∧
          onlyNumbers before = onlyNumbers front ∧ onlyNumbers behind = onlyNumbers back ∧
          Postfix.ofTokens maxDepth (front ++ (enclosed opening closing inner ++ back)) =
            .ok (before ++ listing ++ behind)) ∧
      ∀ failure,
        Postfix.ofTokens maxDepth (front ++ ⟨.num number, place⟩ :: back) = .error failure →
        Postfix.ofTokens maxDepth (front ++ (enclosed opening closing inner ++ back)) =
          .error failure := by
  obtain ⟨listing, listed⟩ := closed.exists_listing
  have within : Paren.deepest (Paren.openBehind 0 (parens front) + 1) (parens inner) ≤ maxDepth := by
    have outside := Paren.deepest_add_le 0 (openCount front + 1) (parens inner)
    rw [Nat.zero_add] at outside
    rw [Nat.add_comm] at shallow
    exact Nat.le_trans outside shallow
  refine ⟨listing, listed, ?_⟩
  rcases Postfix.ofTokens_enclosed (listed _ (Nat.le_refl _)) within opening closing number place back with
    ⟨error, withNumber, withGroup⟩ | ⟨before, behind, withNumber, inOrder, withGroup⟩
  · constructor
    · intro whole ok
      rw [withNumber] at ok
      cases ok
    · intro failure failed
      rw [withNumber] at failed
      rw [withGroup, failed]
  · constructor
    · intro whole ok
      have numbersKept := Postfix.onlyNumbers_of_listed withNumber
      rw [onlyNumbers_append, onlyNumbers_append, inOrder, List.append_cancel_left_eq,
        onlyNumbers_cons, onlyNumbers_cons _ back, List.append_cancel_left_eq] at numbersKept
      rw [withNumber] at ok
      cases ok
      exact ⟨before, behind, rfl, inOrder, numbersKept, withGroup⟩
    · intro failure failed
      rw [withNumber] at failed
      cases failed

/-- The row `^ ! 3 ( - 2 ) ( )` in parentheses, behind `1 ? ( 2 ^` and at the greatest depth that there is. Its
listing stands where the number would stand, and a parenthesis left open in front of it is blamed alike. -/
theorem ofTokens_closed_group_misshapen :
    let front : Tokens := [⟨.num 1, ⟨0, 1⟩⟩, ⟨.op '?', ⟨1, 2⟩⟩, ⟨.paren .opening, ⟨2, 3⟩⟩,
      ⟨.num 2, ⟨3, 4⟩⟩, ⟨.op '^', ⟨4, 5⟩⟩]
    let inner : Tokens := [⟨.op '^', ⟨6, 7⟩⟩, ⟨.op '!', ⟨7, 8⟩⟩, ⟨.num 3, ⟨8, 9⟩⟩,
      ⟨.paren .opening, ⟨9, 10⟩⟩, ⟨.op '-', ⟨10, 11⟩⟩, ⟨.num 2, ⟨11, 12⟩⟩,
      ⟨.paren .closing, ⟨12, 13⟩⟩, ⟨.paren .opening, ⟨13, 14⟩⟩, ⟨.paren .closing, ⟨14, 15⟩⟩]
    let back : Tokens := [⟨.op '*', ⟨16, 17⟩⟩, ⟨.num 2, ⟨17, 18⟩⟩, ⟨.paren .closing, ⟨18, 19⟩⟩]
    let group : Tokens := enclosed ⟨5, 6⟩ ⟨15, 16⟩ inner
    let number : Located Token := ⟨.num 2, ⟨5, 16⟩⟩
    let listing : Tokens := [⟨.num 3, ⟨8, 9⟩⟩, ⟨.num 2, ⟨11, 12⟩⟩, ⟨.op '-', ⟨10, 11⟩⟩,
      ⟨.op '!', ⟨7, 8⟩⟩, ⟨.op '^', ⟨6, 7⟩⟩]
    let whole : Tokens := [⟨.num 1, ⟨0, 1⟩⟩, ⟨.num 2, ⟨3, 4⟩⟩, number, ⟨.op '^', ⟨4, 5⟩⟩,
      ⟨.num 2, ⟨17, 18⟩⟩, ⟨.op '*', ⟨16, 17⟩⟩, ⟨.op '?', ⟨1, 2⟩⟩]
    Closed inner ∧ openCount front + 1 + Paren.deepest 0 (parens inner) ≤ 3 ∧
      Postfix.ofTokens 3 inner = .ok listing ∧
      Postfix.ofTokens 3 (front ++ number :: back) = .ok whole ∧
      (∃ before behind, whole = before ++ number :: behind ∧
        onlyNumbers before = onlyNumbers front ∧ onlyNumbers behind = onlyNumbers back ∧
        Postfix.ofTokens 3 (front ++ (group ++ back)) = .ok (before ++ listing ++ behind)) ∧
      Postfix.ofTokens 3 (front ++ [number]) = .error (.unbalancedParentheses ⟨2, 3⟩) ∧
      Postfix.ofTokens 3 (front ++ (group ++ [])) = .error (.unbalancedParentheses ⟨2, 3⟩) := by
  intro front inner back group number listing whole
  have nested : Closed [⟨.op '-', ⟨10, 11⟩⟩, ⟨.num 2, ⟨11, 12⟩⟩] := .other rfl (.other rfl .nil)
  have closed : Closed inner := by
    refine .other rfl (.other rfl (.other rfl ?_))
    exact .group ⟨9, 10⟩ ⟨12, 13⟩ nested (.group ⟨13, 14⟩ ⟨14, 15⟩ .nil .nil)
  have shallow : openCount front + 1 + Paren.deepest 0 (parens inner) ≤ 3 := by decide
  have alone : Postfix.ofTokens 3 inner = .ok listing := by decide +kernel
  have withNumber : Postfix.ofTokens 3 (front ++ number :: back) = .ok whole := by decide +kernel
  have leftOpen : Postfix.ofTokens 3 (front ++ [number]) = .error (.unbalancedParentheses ⟨2, 3⟩) := by
    decide +kernel
  obtain ⟨found, listed, placed, _⟩ :=
    ofTokens_closed_group closed shallow ⟨5, 6⟩ ⟨15, 16⟩ ⟨5, 16⟩ 2 back
  obtain ⟨_, _, _, fails⟩ := ofTokens_closed_group closed shallow ⟨5, 6⟩ ⟨15, 16⟩ ⟨5, 16⟩ 2 []
  have same : found = listing := by
    have twice := listed 3 (by decide)
    rw [alone] at twice
    exact (Except.ok.inj twice).symm
  rw [same] at placed
  exact ⟨closed, shallow, alone, withNumber, placed whole withNumber, leftOpen, fails _ leftOpen⟩

end Reckon
