import Reckon.Proofs.Arithmetic
import Reckon.Proofs.Grouping
import Reckon.Proofs.Pipeline
import Reckon.Proofs.Tokenize

/-! Formulas written as texts. Main statement: the outcome of a text that writes a formula is the value
of the formula. -/

namespace Reckon

open Text (chars)

/-- The marks of a text write a formula. Beside it stands the operation that is carried out last, unless
the text is a literal or in parentheses. -/
inductive Renders : List (Located Char) → Formula → Option Operation → Prop
  | literal {first : Located Char} {more : List (Located Char)} {value : Float}
      (numeral : isNumeral (chars (first :: more)) = true)
      (spelled : Decimal.read? (chars (first :: more)) = some value)
      (finite : value.isFinite = true) :
      Renders (first :: more) (.literal value (cover first more)) none
  | group {inner : List (Located Char)} {formula : Formula} {top : Option Operation}
      (opening closing : Span) (renders : Renders inner formula top) :
      Renders (⟨'(', opening⟩ :: (inner ++ [⟨')', closing⟩])) formula none
  | node {left right : List (Located Char)} {leftFormula rightFormula : Formula}
      {leftTop rightTop : Option Operation} (operation : Operation) (span : Span)
      (leftRenders : Renders left leftFormula leftTop)
      (rightRenders : Renders right rightFormula rightTop)
      (leftBare : ∀ inner ∈ leftTop, ¬operation.leftNeedsParens inner)
      (rightBare : ∀ inner ∈ rightTop, ¬operation.rightNeedsParens inner) :
      Renders (left ++ ⟨operation.sym, span⟩ :: right) (.node operation span leftFormula rightFormula)
        (some operation)

namespace Renders

variable {marks : List (Located Char)} {formula : Formula} {top : Option Operation}

theorem accepted (renders : Renders marks formula top) :
    ∀ mark ∈ marks, isAccepted mark.elem = true := by
  induction renders with
  | literal numeral spelled finite => exact Lexeme.isAccepted_of_isNumeral numeral
  | group opening closing renders ih =>
    intro mark member
    simp only [List.mem_cons, List.mem_append, List.not_mem_nil, or_false] at member
    rcases member with rfl | inside | rfl
    · rfl
    · exact ih mark inside
    · rfl
  | node operation span leftRenders rightRenders leftBare rightBare left right =>
    intro mark member
    rcases List.mem_append.1 member with inLeft | inRight
    · exact left mark inLeft
    · rcases List.mem_cons.1 inRight with rfl | inRight
      · simp [isAccepted, operation.isOperator_sym]
      · exact right mark inRight

theorem lexemes (renders : Renders marks formula top) {tail : List (Located Char)}
    (ends : ∀ mark ∈ tail.head?, numericMark mark = false) :
    ∃ words tokens, Reckon.lexemes false (marks ++ tail) = words ++ Reckon.lexemes true tail ∧
      words.mapM Lexeme.read = .ok tokens ∧
        Groups tokens formula.toExpr (top.map Operation.operator) false := by
  induction renders generalizing tail with
  | @literal first more value numeral spelled finite =>
    obtain ⟨head, numeric, _⟩ := Lexeme.isNumeral_iff.1 numeral
    refine ⟨[.number first more], [⟨.num value, cover first more⟩], ?_, ?_, ?_⟩
    · exact lexemes_literal head numeric ends
    · exact mapM_cons_of_ok (Lexeme.read_numeral numeral spelled finite) rfl
    · exact .num value _
  | @group inner formula top opening closing renders ih =>
    have closes : ∀ mark ∈ (⟨')', closing⟩ :: tail : List (Located Char)).head?,
        numericMark mark = false := by simp [numericMark, isNumeric]
    obtain ⟨words, tokens, cut, read, groups⟩ := ih closes
    refine ⟨.symbol ⟨'(', opening⟩ :: (words ++ [.symbol ⟨')', closing⟩]),
      ⟨.paren .opening, opening⟩ :: (tokens ++ [⟨.paren .closing, closing⟩]), ?_, ?_, ?_⟩
    · rw [List.cons_append, lexemes_opening, List.append_assoc, List.singleton_append, cut,
        lexemes_closing]
      simp
    · exact mapM_cons_of_ok rfl (mapM_append_of_ok read (mapM_cons_of_ok rfl rfl))
    · exact .paren opening closing groups
  | @node left right leftFormula rightFormula leftTop rightTop operation span leftRenders rightRenders
      leftBare rightBare leftWords rightWords =>
    have known := operation.isOperator_sym
    have behindLeft : ∀ mark ∈ (⟨operation.sym, span⟩ :: (right ++ tail) : List (Located Char)).head?,
        numericMark mark = false := by simp [numericMark, isNumeric_of_isOperator known]
    obtain ⟨front, frontTokens, frontCut, frontRead, frontGroups⟩ :=
      leftWords behindLeft
    obtain ⟨back, backTokens, backCut, backRead, backGroups⟩ := rightWords ends
    refine ⟨front ++ .symbol ⟨operation.sym, span⟩ :: back,
      frontTokens ++ ⟨.op operation.sym, span⟩ :: backTokens,
      ?_, ?_, ?_⟩
    · rw [List.append_assoc, List.cons_append, frontCut, lexemes_operator known, backCut]
      simp
    · exact mapM_append_of_ok frontRead
        (mapM_cons_of_ok (Lexeme.read_operator known span) backRead)
    · refine .operator span operation.find?_sym frontGroups backGroups ?_ ?_
      · intro inner member
        obtain ⟨leftLast, isTop, rfl⟩ := Option.mem_map.1 member
        exact Operation.yieldsTo_of_leftBare (leftBare leftLast isTop)
      · intro inner member
        obtain ⟨rightLast, isTop, rfl⟩ := Option.mem_map.1 member
        exact Operation.not_yieldsTo_of_rightBare (rightBare rightLast isTop)

end Renders

/-- The outcome of a text that writes a formula is the value of the formula. There is none only where the
formula divides by zero, and then the first such division is blamed, in postfix order. -/
theorem evaluate_rendering (limits : Limits) {expression : String} {formula : Formula}
    {top : Option Operation} (renders : Renders (Text.marks 0 expression.toList) formula top)
    (short : expression.utf8ByteSize ≤ limits.maxInputLen)
    (shallow : Paren.deepest 0 (Text.parens expression.toList) ≤ limits.maxNestingDepth) :
    limits.evaluate expression = formula.value.mapError (fun span => .eval (.divisionByZero span)) ∧
      match formula.firstZeroDivision? with
      | none => ∃ value, formula.value = .ok value
      | some span => formula.value = .error span := by
  refine ⟨?_, formula.value_of_firstZeroDivision?⟩
  have noTail : ∀ mark ∈ ([] : List (Located Char)).head?, numericMark mark = false := by simp
  obtain ⟨words, tokens, cut, read, groups⟩ := renders.lexemes noTail
  rw [List.append_nil, lexemes_nil, List.append_nil] at cut
  rw [← cut] at read
  have tokenized : tokenizeMarks (Text.marks 0 expression.toList) = .ok tokens :=
    tokenizeMarks_eq_ok.2 ⟨renders.accepted, read⟩
  have sides := parens_of_lexemes read
  rw [Text.parens_marks] at sides
  rw [← sides] at shallow
  calc
    limits.evaluate expression = reckonTokens limits.maxNestingDepth (.ok tokens) := by
      rw [Limits.evaluate_of_short short, tokenize_eq, tokenized]
    _ = formula.toExpr.value.mapError .eval := by
      rw [reckonTokens_of_listed (groups.ofTokens shallow), Expr.evaluate_listing]
    _ = formula.value.mapError (fun span => .eval (.divisionByZero span)) := by
      rw [formula.value_toExpr]
      cases formula.value <;> rfl

/-- The sign binds tighter than the power, a blank stands within a literal, and the divisor is a group that
comes to zero. Sums and products without parentheses are carried out from the left. -/
theorem evaluate_rendering_zero_divisor_and_value :
    let power : Formula := .node .power ⟨3, 4⟩ (.literal (-3) ⟨0, 3⟩) (.literal 2 ⟨4, 5⟩)
    let divisor : Formula := .node .difference ⟨11, 12⟩ (.literal 1 ⟨8, 10⟩) (.literal 1 ⟨12, 13⟩)
    let failing : Formula := .node .quotient ⟨5, 6⟩ power divisor
    let product : Formula := .node .product ⟨3, 4⟩ (.literal 2 ⟨2, 3⟩) (.literal 6 ⟨4, 5⟩)
    let quotient : Formula := .node .quotient ⟨5, 6⟩ product (.literal 0.5 ⟨6, 8⟩)
    let difference : Formula := .node .difference ⟨1, 2⟩ (.literal 8 ⟨0, 1⟩) quotient
    let sum : Formula := .node .sum ⟨8, 9⟩ difference (.literal 1 ⟨9, 10⟩)
    (Renders (Text.marks 0 "- 3^2/( 1. -1)".toList) failing (some .quotient) ∧
      ({} : Limits).evaluate "- 3^2/( 1. -1)" = .error (.eval (.divisionByZero ⟨5, 6⟩))) ∧
        Renders (Text.marks 0 "8-2*6/.5+1".toList) sum (some .sum) ∧
          ({} : Limits).evaluate "8-2*6/.5+1" = .ok (-15) := by
  intro power divisor failing product quotient difference sum
  constructor
  · have minusThree : Renders [⟨'-', ⟨0, 1⟩⟩, ⟨'3', ⟨2, 3⟩⟩] (.literal (-3) ⟨0, 3⟩) none :=
      .literal (by decide) (by decide +kernel) (by decide +kernel)
    have two : Renders [⟨'2', ⟨4, 5⟩⟩] (.literal 2 ⟨4, 5⟩) none :=
      .literal (by decide) (by decide +kernel) (by decide +kernel)
    have onePoint : Renders [⟨'1', ⟨8, 9⟩⟩, ⟨'.', ⟨9, 10⟩⟩] (.literal 1 ⟨8, 10⟩) none :=
      .literal (by decide) (by decide +kernel) (by decide +kernel)
    have one : Renders [⟨'1', ⟨12, 13⟩⟩] (.literal 1 ⟨12, 13⟩) none :=
      .literal (by decide) (by decide +kernel) (by decide +kernel)
    have writesPower : Renders _ power (some .power) :=
      .node .power ⟨3, 4⟩ minusThree two (by simp) (by simp)
    have writesDivisor : Renders _ divisor (some .difference) :=
      .node .difference ⟨11, 12⟩ onePoint one (by simp) (by simp)
    have renders : Renders (Text.marks 0 "- 3^2/( 1. -1)".toList) failing (some .quotient) :=
      .node .quotient ⟨5, 6⟩ writesPower (.group ⟨6, 7⟩ ⟨13, 14⟩ writesDivisor) (by decide) (by simp)
    obtain ⟨outcome, blamed⟩ := evaluate_rendering {} renders (by decide) (by decide)
    have zero : failing.firstZeroDivision? = some ⟨5, 6⟩ := by decide +kernel
    rw [zero] at blamed
    rw [outcome, blamed]
    exact ⟨renders, rfl⟩
  · have eight : Renders [⟨'8', ⟨0, 1⟩⟩] (.literal 8 ⟨0, 1⟩) none :=
      .literal (by decide) (by decide +kernel) (by decide +kernel)
    have two : Renders [⟨'2', ⟨2, 3⟩⟩] (.literal 2 ⟨2, 3⟩) none :=
      .literal (by decide) (by decide +kernel) (by decide +kernel)
    have six : Renders [⟨'6', ⟨4, 5⟩⟩] (.literal 6 ⟨4, 5⟩) none :=
      .literal (by decide) (by decide +kernel) (by decide +kernel)
    have half : Renders [⟨'.', ⟨6, 7⟩⟩, ⟨'5', ⟨7, 8⟩⟩] (.literal 0.5 ⟨6, 8⟩) none :=
      .literal (by decide) (by decide +kernel) (by decide +kernel)
    have one : Renders [⟨'1', ⟨9, 10⟩⟩] (.literal 1 ⟨9, 10⟩) none :=
      .literal (by decide) (by decide +kernel) (by decide +kernel)
    have writesProduct : Renders _ product (some .product) :=
      .node .product ⟨3, 4⟩ two six (by simp) (by simp)
    have writesQuotient : Renders _ quotient (some .quotient) :=
      .node .quotient ⟨5, 6⟩ writesProduct half (by decide) (by simp)
    have writesDifference : Renders _ difference (some .difference) :=
      .node .difference ⟨1, 2⟩ eight writesQuotient (by simp) (by decide)
    have renders : Renders (Text.marks 0 "8-2*6/.5+1".toList) sum (some .sum) :=
      .node .sum ⟨8, 9⟩ writesDifference one (by decide) (by simp)
    have value : sum.value = .ok (-15) := by decide +kernel
    rw [(evaluate_rendering {} renders (by decide) (by decide)).1, value]
    exact ⟨renders, rfl⟩

end Reckon
