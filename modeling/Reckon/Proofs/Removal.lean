import Reckon.Proofs.Grammar

/-! Texts that lose one parenthesis. Main statement: the rest of a text that follows the grammar is cut into
the tokens that it had before, and is refused for its parentheses whatever it divides by. -/

namespace Reckon

open Text (byteLength marks)

section Parens

variable {maxDepth : Nat} {opened : List Span} {tokens : Tokens}

theorem count_of_checkParens (balanced : checkParens maxDepth opened tokens = .ok ()) :
    opened.length + (parens tokens).count .opening = (parens tokens).count .closing := by
  induction tokens generalizing opened with
  | nil =>
    cases opened with
    | nil => rfl
    | cons innermost outer => cases balanced
  | cons token rest ih =>
    obtain ⟨elem, span⟩ := token
    match elem, opened with
    | .num value, opened => exact ih balanced
    | .op sym, opened => exact ih balanced
    | .paren .opening, opened =>
      have later := ih (checkParens_opening_ok balanced)
      have row : parens (⟨.paren .opening, span⟩ :: rest) = .opening :: parens rest := rfl
      rw [List.length_cons] at later
      rw [row, List.count_cons_self, List.count_cons_of_ne Paren.noConfusion]
      omega
    | .paren .closing, [] =>
      rw [checkParens_alone] at balanced
      cases balanced
    | .paren .closing, innermost :: outer =>
      rw [checkParens_closing] at balanced
      have later := ih balanced
      have row : parens (⟨.paren .closing, span⟩ :: rest) = .closing :: parens rest := rfl
      rw [row, List.count_cons_self, List.count_cons_of_ne Paren.noConfusion, List.length_cons]
      omega

theorem unbalanced_of_checkParens {error : ParseError}
    (shallow : Paren.deepest opened.length (parens tokens) ≤ maxDepth)
    (failed : checkParens maxDepth opened tokens = .error error) :
    ∃ span, error = .unbalancedParentheses span := by
  induction tokens generalizing opened with
  | nil =>
    cases opened with
    | nil => cases failed
    | cons innermost outer =>
      injection failed with failed
      exact ⟨innermost, failed.symm⟩
  | cons token rest ih =>
    obtain ⟨elem, span⟩ := token
    match elem, opened with
    | .num value, opened => exact ih shallow failed
    | .op sym, opened => exact ih shallow failed
    | .paren .opening, opened =>
      have room : opened.length < maxDepth := Nat.lt_of_lt_of_le (Paren.le_deepest _ _) shallow
      rw [checkParens_room room] at failed
      exact ih shallow failed
    | .paren .closing, [] =>
      rw [checkParens_alone] at failed
      injection failed with failed
      exact ⟨span, failed.symm⟩
    | .paren .closing, innermost :: outer =>
      rw [checkParens_closing] at failed
      exact ih (Nat.max_le.1 shallow).2 failed

end Parens

theorem Postfix.exists_unbalanced_without {maxDepth : Nat} {tokens others listing : Tokens}
    {first second : List Paren} {side : Paren} (listed : ofTokens maxDepth tokens = .ok listing)
    (whole : parens tokens = first ++ side :: second) (rest : parens others = first ++ second)
    (shallow : Paren.deepest 0 (parens others) ≤ maxDepth) :
    ∃ span, ofTokens maxDepth others = .error (.unbalancedParentheses span) := by
  have before := ofTokens_outcome maxDepth tokens
  rw [listed] at before
  have wholeCount := count_of_checkParens before.symm
  have after := ofTokens_outcome maxDepth others
  cases outcome : ofTokens maxDepth others with
  | ok otherListing =>
    rw [outcome] at after
    have restCount := count_of_checkParens after.symm
    rw [whole] at wholeCount
    rw [rest] at restCount
    cases side <;> simp at wholeCount restCount <;> omega
  | error error =>
    rw [outcome] at after
    obtain ⟨span, rfl⟩ := unbalanced_of_checkParens shallow after.symm
    exact ⟨span, rfl⟩

theorem holes_le_append (afterOperand : Bool) (first second : Tokens) :
    holes (operandBehind afterOperand first) second ≤ holes afterOperand (first ++ second) := by
  induction first generalizing afterOperand with
  | nil => exact Nat.le_refl _
  | cons token rest ih => exact Nat.le_trans (ih token.elem.endsOperand) (Nat.le_add_left _ _)

/-- In an expression an operand ends before a closing parenthesis, and none before an opening one. So a minus
behind the parenthesis is a sign or an operator as it is without the parenthesis. -/
theorem Derives.operandBehind_paren {front back : Tokens} {side : Paren} {span : Span}
    (derives : Derives .expression (front ++ ⟨.paren side, span⟩ :: back)) :
    operandBehind false front = (Token.paren side).endsOperand := by
  obtain ⟨noGaps, noHoles⟩ := derives.gaps_append []
  rw [List.append_nil] at noGaps noHoles
  cases side with
  | opening =>
    rw [Reckon.gaps_append] at noGaps
    have noneBehind := (Nat.add_eq_zero_iff.1 noGaps).2
    cases behind : operandBehind false front with
    | false => rfl
    | true =>
      rw [behind] at noneBehind
      simp [gaps, Token.beginsOperand] at noneBehind
  | closing =>
    have noneBehind := holes_le_append false front (⟨.paren .closing, span⟩ :: back)
    rw [noHoles] at noneBehind
    cases behind : operandBehind false front with
    | true => rfl
    | false =>
      rw [behind] at noneBehind
      simp [holes, Token.beginsOperand] at noneBehind

theorem Tokenizes.without_paren {left rest : List (Located Char)} {side : Paren} {span : Span}
    {places : Relocation} {tokens : Tokens}
    (whole : Tokenizes false (left ++ ⟨side.char, span⟩ :: rest.map places.item) tokens)
    (derives : Derives .expression tokens) :
    ∃ front back, tokens = front ++ ⟨.paren side, span⟩ :: back.map places.item ∧
      Tokenizes false (left ++ rest) (front ++ back) := by
  have apart : ∀ mark ∈ (⟨side.char, span⟩ :: rest.map places.item : List (Located Char)).head?,
      numericMark mark = false := by
    cases side <;> simp [numericMark, isNumeric, Paren.char]
  obtain ⟨front, last, rfl, frontTokens, lastTokens⟩ := whole.exists_append apart
  obtain ⟨moved, rfl, movedTokens⟩ := (tokenizes_paren side).1 lastTokens
  obtain ⟨back, rfl, backTokens⟩ := movedTokens.exists_relocate
  have context := derives.operandBehind_paren
  refine ⟨front, back, rfl, frontTokens.append (context ▸ backTokens) ?_⟩
  rw [context]
  cases side with
  | opening => exact .inl rfl
  | closing =>
    have noGaps := (derives.gaps_append []).1
    rw [List.append_nil, gaps_append] at noGaps
    have behind := (Nat.add_eq_zero_iff.1 (Nat.add_eq_zero_iff.1 noGaps).2).2
    exact .inr (places.ends_iff.1 (movedTokens.ends_of_noGaps behind))

theorem Text.marks_paren (before after : String) (side : Paren) :
    marks 0 (before ++ String.singleton side.char ++ after).toList =
      marks 0 before.toList ++ ⟨side.char, ⟨before.utf8ByteSize, before.utf8ByteSize + 1⟩⟩ ::
        (marks before.utf8ByteSize after.toList).map (Relocation.shift 1).item := by
  have notBlank : isBlank side.char = false := by cases side <;> rfl
  have size : side.char.utf8Size = 1 := by cases side <;> rfl
  have text : (before ++ String.singleton side.char ++ after).toList =
      before.toList ++ side.char :: after.toList := by simp
  rw [text, marks_append, marks_cons_mark notBlank, byteLength_toList, size, Nat.zero_add, marks_add]

/-- A text that follows the grammar is refused for its parentheses once it has lost one of them, whichever it
is and whatever the text divides by. -/
theorem evaluate_without_paren {limits : Limits} {before after : String} {side : Paren}
    (wellFormed : WellFormed (before ++ String.singleton side.char ++ after))
    (short : (before ++ after).utf8ByteSize ≤ limits.maxInputLen)
    (shallow : Paren.deepest 0 (Text.parens (before ++ String.singleton side.char ++ after).toList) + 1 ≤
      limits.maxNestingDepth) :
    ∃ span, limits.evaluate (before ++ after) = .error (.parse (.unbalancedParentheses span)) := by
  obtain ⟨tokens, tokenizes, derives⟩ := wellFormed.tokenizes
  obtain ⟨tree, top, greedy, groups, _⟩ := derives.exists_groups
  have whole : parens tokens = Text.parens before.toList ++ side :: Text.parens after.toList := by
    have made : Paren.ofChar? side.char = some side := by cases side <;> rfl
    rw [tokenizes.parens_eq]
    simp [Text.parens, made]
  rw [← tokenizes.parens_eq] at shallow
  have listed := groups.ofTokens (Nat.le_of_succ_le shallow)
  rw [Text.marks_paren] at tokenizes
  obtain ⟨front, back, _, others⟩ := tokenizes.without_paren derives
  have read : Tokenizes false (marks 0 (before ++ after).toList) (front ++ back) := by
    rw [String.toList_append, Text.marks_append, Text.byteLength_toList, Nat.zero_add]
    exact others
  have rest : parens (front ++ back) = Text.parens before.toList ++ Text.parens after.toList := by
    rw [read.parens_eq, String.toList_append, Text.parens_append]
  have room : Paren.deepest 0 (parens (front ++ back)) ≤ limits.maxNestingDepth := by
    calc Paren.deepest 0 (parens (front ++ back))
      _ ≤ Paren.deepest 0 (parens tokens) + 1 := by
        rw [rest, whole]
        exact Paren.deepest_without_le _ _ side
      _ ≤ limits.maxNestingDepth := shallow
  obtain ⟨span, unlisted⟩ := Postfix.exists_unbalanced_without listed whole rest room
  refine ⟨span, ?_⟩
  rw [Limits.evaluate_of_short short, tokenizes_iff.2 read, reckonTokens_of_unlisted unlisted]

/-- A sign behind an opening parenthesis stays a sign without it, and the division by zero is not reached. -/
theorem evaluate_without_paren_before_sign :
    WellFormed "1/0*(-2 )- .5" ∧
      ∃ span, (⟨12, 2⟩ : Limits).evaluate "1/0*-2 )- .5" =
        .error (.parse (.unbalancedParentheses span)) := by
  have one : Writes .operand "1".toList :=
    @Writes.literal _ 1 (by decide) (by decide +kernel) (by decide +kernel)
  have zero : Writes .operand "0".toList :=
    @Writes.literal _ 0 (by decide) (by decide +kernel) (by decide +kernel)
  have minusTwo : Writes .operand "-2".toList :=
    @Writes.literal _ (-2) (by decide) (by decide +kernel) (by decide +kernel)
  have half : Writes .operand ".5".toList :=
    @Writes.literal _ 0.5 (by decide) (by decide +kernel) (by decide +kernel)
  have quotient : Writes .expression "1/0".toList := .chain (by decide) (.single one) zero
  have product : Writes .expression "1/0*(-2)".toList :=
    .chain (by decide) quotient (.group (.single minusTwo))
  have bare : (Text.withoutBlanks "1/0*(-2 )- .5").toList = "1/0*(-2)".toList ++ '-' :: ".5".toList := by
    decide
  have written : WellFormed "1/0*(-2 )- .5" := by
    rw [WellFormed, bare]
    exact .chain (by decide) product half
  have parts : "1/0*" ++ String.singleton Paren.opening.char ++ "-2 )- .5" = "1/0*(-2 )- .5" := by decide
  have shortened : "1/0*" ++ "-2 )- .5" = "1/0*-2 )- .5" := by decide
  rw [← parts] at written
  have refused := @evaluate_without_paren ⟨12, 2⟩ _ _ _ written (by decide) (by decide)
  rw [parts] at written
  rw [shortened] at refused
  exact ⟨written, refused⟩

end Reckon
