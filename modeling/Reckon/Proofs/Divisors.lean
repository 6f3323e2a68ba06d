import Reckon.Binary64.Bits
import Reckon.Proofs.Grammar

/-! Divisions by literals. Main statement: a text that follows the grammar has a value if every division in
it is by a literal that is not zero and that no power takes, for such a literal is the whole divisor. -/

namespace Reckon

open Text (chars)

/-- In a text without blanks, every division is by a literal that is not zero, of either sign, and behind
which no power stands. The literal is as long as digits and points follow. -/
def DividesByLiterals (text : List Char) : Prop :=
  ∀ before behind, text = before ++ '/' :: behind →
    ∃ literal rest value, behind = literal ++ rest ∧ isNumeral literal = true ∧
      (∀ c ∈ rest.head?, isNumeric c = false ∧ c ≠ '^') ∧
        Decimal.read? literal = some value ∧ value ≠ 0 ∧ value ≠ -0

theorem dividesByLiterals_of_not_mem {text : List Char} (none : '/' ∉ text) : DividesByLiterals text := by
  intro before behind parts
  exact absurd (parts ▸ by simp) none

theorem DividesByLiterals.division {first literal rest : List Char} {value : Float} (none : '/' ∉ first)
    (numeral : isNumeral literal = true) (ends : ∀ c ∈ rest.head?, isNumeric c = false ∧ c ≠ '^')
    (spelled : Decimal.read? literal = some value) (nonzero : value ≠ 0 ∧ value ≠ -0)
    (others : DividesByLiterals (literal ++ rest)) :
    DividesByLiterals (first ++ '/' :: (literal ++ rest)) := by
  intro before behind parts
  rcases append_cons_cases parts with ⟨middle, rfl, _⟩ | ⟨_, _, rfl⟩ | ⟨middle, _, split⟩
  · exact absurd (by simp) none
  · exact ⟨literal, rest, value, rfl, numeral, ends, spelled, nonzero⟩
  · exact others middle behind split

def DividesByNumbers (tokens : Tokens) : Prop :=
  ∀ front place back, tokens = front ++ ⟨.op '/', place⟩ :: back →
    ∃ value span rest, back = ⟨.num value, span⟩ :: rest ∧ (value == 0) = false ∧
      ∀ token ∈ rest.head?, token.elem ≠ .op '^'

section Lexemes

variable {afterOperand : Bool} {marks : List (Located Char)} {tokens back : Tokens} {sym : Char}
  {span : Span}

theorem marks_of_first_operator
    (read : (lexemes afterOperand marks).mapM Lexeme.read = .ok (⟨.op sym, span⟩ :: back)) :
    ∃ rest, marks = ⟨sym, span⟩ :: rest ∧ (lexemes false rest).mapM Lexeme.read = .ok back := by
  fun_cases lexemes afterOperand marks with
  | case1 =>
    rw [lexemes_nil] at read
    cases read
  | case2 mark rest begins =>
    rw [lexemes_number begins] at read
    obtain ⟨number, others, readFirst, _, same⟩ := mapM_cons_eq_ok read
    obtain ⟨value, rfl⟩ := Lexeme.exists_num_of_readNumber readFirst
    cases same
  | case3 mark rest single =>
    rw [lexemes_symbol (Bool.eq_false_iff.2 single)] at read
    obtain ⟨token, others, readFirst, readRest, same⟩ := mapM_cons_eq_ok read
    cases same
    have context : false = (mark.elem == ')') := Lexeme.endsOperand_of_read readFirst
    rw [← context] at readRest
    rcases Lexeme.read_symbol_cases readFirst with ⟨side, _, other⟩ | ⟨_, here⟩
    · cases other
    · cases here
      exact ⟨rest, rfl, readRest⟩

theorem marks_of_operator {front : Tokens}
    (read : (lexemes afterOperand marks).mapM Lexeme.read = .ok (front ++ ⟨.op sym, span⟩ :: back)) :
    ∃ left right, marks = left ++ ⟨sym, span⟩ :: right ∧
      (lexemes false right).mapM Lexeme.read = .ok back := by
  fun_induction lexemes afterOperand marks generalizing front with
  | case1 afterOperand => cases front <;> cases read
  | case2 afterOperand first rest begins ih =>
    obtain ⟨number, others, readFirst, readRest, same⟩ := mapM_cons_eq_ok read
    obtain ⟨value, rfl⟩ := Lexeme.exists_num_of_readNumber readFirst
    cases front with
    | nil => cases same
    | cons token front =>
      cases same
      obtain ⟨left, right, parts, behind⟩ := ih readRest
      refine ⟨first :: (rest.takeWhile numericMark ++ left), right, ?_, behind⟩
      rw [List.cons_append, List.append_assoc, ← parts, List.takeWhile_append_dropWhile]
  | case3 afterOperand mark rest single ih =>
    cases front with
    | nil =>
      rw [← lexemes_symbol (Bool.eq_false_iff.2 single)] at read
      obtain ⟨right, parts, behind⟩ := marks_of_first_operator read
      exact ⟨[], right, parts, behind⟩
    | cons token front =>
      obtain ⟨token, others, readFirst, readRest, same⟩ := mapM_cons_eq_ok read
      cases same
      obtain ⟨left, right, rfl, behind⟩ := ih readRest
      exact ⟨mark :: left, right, rfl, behind⟩

theorem tokens_of_literal {first : Located Char} {more tail : List (Located Char)} {value : Float}
    (numeral : isNumeral (chars (first :: more)) = true)
    (spelled : Decimal.read? (chars (first :: more)) = some value)
    (ends : ∀ mark ∈ tail.head?, numericMark mark = false)
    (read : (lexemes false (first :: (more ++ tail))).mapM Lexeme.read = .ok tokens) :
    ∃ others, tokens = ⟨.num value, cover first more⟩ :: others ∧
      (lexemes true tail).mapM Lexeme.read = .ok others := by
  obtain ⟨begins, numeric, _⟩ := Lexeme.isNumeral_iff.1 numeral
  rw [lexemes_literal begins numeric ends] at read
  obtain ⟨token, others, readFirst, readRest, rfl⟩ := mapM_cons_eq_ok read
  by_cases finite : value.isFinite = true
  · rw [Lexeme.read_numeral numeral spelled finite] at readFirst
    cases readFirst
    exact ⟨others, rfl, readRest⟩
  · rw [Lexeme.read, Lexeme.readNumber_of_isNumeral numeral, spelled] at readFirst
    simp [finite] at readFirst

theorem dividesByNumbers_of_lexemes (read : (lexemes afterOperand marks).mapM Lexeme.read = .ok tokens)
    (literals : DividesByLiterals (chars marks)) : DividesByNumbers tokens := by
  intro front place back parts
  rw [parts] at read
  obtain ⟨left, right, rfl, behind⟩ := marks_of_operator read
  obtain ⟨literal, rest, value, split, numeral, ends, spelled, positive, negative⟩ :=
    literals (chars left) (chars right) (by simp)
  obtain ⟨digits, tail, rfl, rfl, rfl⟩ := List.map_eq_append_iff.1 split
  cases digits with
  | nil => cases numeral
  | cons first more =>
    have apart : ∀ mark ∈ tail.head?, numericMark mark = false := by
      intro mark head
      exact (ends mark.elem (by simp [Option.mem_def.1 head])).1
    obtain ⟨others, rfl, readRest⟩ := tokens_of_literal numeral spelled apart behind
    have nonzero : (value == 0) = false := by
      rw [Bool.eq_false_iff, Ne, Binary64.beq_zero_iff, not_or]
      exact ⟨positive, negative⟩
    refine ⟨value, cover first more, others, rfl, nonzero, ?_⟩
    intro next head power
    obtain ⟨elem, nextSpan⟩ := next
    obtain ⟨later, rfl⟩ := List.head?_eq_some_iff.1 head
    cases power
    obtain ⟨_, rfl, _⟩ := marks_of_first_operator readRest
    exact (ends '^' (by simp)).2 rfl

end Lexemes

section Divides

variable {first second : Tokens} {token : Located Token}

theorem DividesByNumbers.behind (divides : DividesByNumbers (first ++ second)) :
    DividesByNumbers second := by
  intro front place back parts
  rw [parts, ← List.append_assoc] at divides
  exact divides _ place back rfl

theorem DividesByNumbers.before (divides : DividesByNumbers (first ++ token :: second))
    (noNumber : token.elem.isNum = false) : DividesByNumbers first := by
  intro front place back parts
  obtain ⟨value, span, rest, split, nonzero, noPower⟩ :=
    divides front place (back ++ token :: second) (by simp [parts])
  cases back with
  | nil =>
    injection split with same _
    rw [same] at noNumber
    cases noNumber
  | cons divisor others =>
    injection split with same tail
    refine ⟨value, span, others, by rw [same], nonzero, ?_⟩
    intro next head
    apply noPower
    rw [← tail]
    simp [Option.mem_def.1 head]

end Divides

namespace Operator

theorem sym_eq_power {division operator : Operator} {sym : Char} (divides : find? '/' = some division)
    (found : find? sym = some operator) (tighter : operator.yieldsTo division = false) : sym = '^' := by
  have checked : ∀ operator ∈ table, operator.yieldsTo ⟨'/', .left, 2⟩ = false → operator.sym = '^' := by
    decide
  have same := List.find?_some found
  cases divides
  rw [← eq_of_beq same]
  exact checked operator (List.mem_of_find?_eq_some found) tighter

theorem not_yieldsTo_of_power {power inner : Operator} (found : find? '^' = some power)
    (known : inner ∈ table) : power.yieldsTo inner = false := by
  have checked : ∀ inner ∈ table, (⟨'^', .right, 3⟩ : Operator).yieldsTo inner = false := by decide
  cases found
  exact checked inner known

end Operator

section Groups

variable {tokens : Tokens} {tree : Expr} {top : Option Operator} {greedy : Bool}

theorem Groups.top_mem (groups : Groups tokens tree top greedy) :
    ∀ operator ∈ top, operator ∈ Operator.table := by
  cases groups with
  | operator span found leftGroups rightGroups leftBinds rightBinds =>
    intro operator same
    rw [← Option.some_inj.1 same]
    exact List.mem_of_find?_eq_some found
  | num => exact nofun
  | paren => exact nofun
  | foreign => exact nofun

theorem Groups.eq_num {value : Float} {span : Span} {rest : Tokens}
    (groups : Groups (⟨.num value, span⟩ :: rest) tree none false) :
    rest = [] ∧ tree = .num value span := by
  generalize row : (⟨.num value, span⟩ :: rest : Tokens) = tokens at groups
  cases groups with
  | num other place =>
    cases row
    exact ⟨rfl, rfl⟩
  | paren opening closing inside => cases row

theorem Groups.eq_divisor {division : Operator} {value : Float} {span : Span} {rest : Tokens}
    (groups : Groups (⟨.num value, span⟩ :: rest) tree top greedy)
    (divides : Operator.find? '/' = some division)
    (binds : ∀ inner ∈ top, inner.yieldsTo division = false) (known : tree.Known)
    (noPower : ∀ token ∈ rest.head?, token.elem ≠ .op '^') : tree = .num value span := by
  generalize row : (⟨.num value, span⟩ :: rest : Tokens) = tokens at groups
  cases groups with
  | num other place =>
    cases row
    rfl
  | paren opening closing inside => cases row
  | @operator sym operator left right leftTree rightTree leftTop rightTop greedy place found leftGroups
      rightGroups leftBinds rightBinds =>
    -- The operator is a power, and so its left operand is the number alone.
    obtain rfl := Operator.sym_eq_power divides found (binds operator rfl)
    cases left with
    | nil => cases row
    | cons first others =>
      cases row
      cases leftTop with
      | none =>
        obtain ⟨rfl, _⟩ := leftGroups.eq_num
        exact absurd rfl (noPower ⟨.op '^', place⟩ rfl)
      | some inner =>
        have yields := leftBinds inner rfl
        rw [Operator.not_yieldsTo_of_power found (leftGroups.top_mem inner rfl)] at yields
        cases yields
  | foreign place unknown leftGroups rightGroups =>
    rw [Expr.Known, isOperator, unknown] at known
    cases known.1

end Groups

theorem Expr.firstZeroDivision?_node_eq_none {sym : Char} {span : Span} {left right : Expr} :
    (node sym span left right).firstZeroDivision? = none ↔ left.firstZeroDivision? = none ∧
      right.firstZeroDivision? = none ∧ (node sym span left right).zeroDivision? = none := by
  simp [firstZeroDivision?, operations, List.findSome?_append]

theorem Groups.noZeroDivision {tokens : Tokens} {tree : Expr} {top : Option Operator} {greedy : Bool}
    (groups : Groups tokens tree top greedy) (known : tree.Known) (divides : DividesByNumbers tokens) :
    tree.firstZeroDivision? = none := by
  induction groups with
  | num value span => rfl
  | paren opening closing groups ih =>
    rw [← List.singleton_append] at divides
    exact ih known (divides.behind.before rfl)
  | @operator sym operator left right leftTree rightTree leftTop rightTop greedy span found leftGroups
      rightGroups leftBinds rightBinds leftStep rightStep =>
    obtain ⟨_, leftKnown, rightKnown⟩ := known
    have rightDivides := divides
    rw [List.append_cons] at rightDivides
    have rightNone := rightStep rightKnown rightDivides.behind
    rw [Expr.firstZeroDivision?_node_eq_none]
    refine ⟨leftStep leftKnown (divides.before rfl), rightNone, ?_⟩
    by_cases division : sym = '/'
    · subst division
      obtain ⟨value, place, rest, rfl, nonzero, noPower⟩ := divides left span right rfl
      rw [rightGroups.eq_divisor found rightBinds rightKnown noPower, Expr.zeroDivision?_node rfl]
      simp [nonzero]
    · have reckoned := Expr.value_of_known rightKnown
      rw [rightNone] at reckoned
      obtain ⟨value, reckoned⟩ := reckoned
      rw [Expr.zeroDivision?_node reckoned, if_neg (fun zero => division zero.1)]
  | foreign span unknown leftGroups rightGroups leftStep rightStep =>
    rw [Expr.Known, isOperator, unknown] at known
    cases known.1

/-- A text that follows the grammar and divides by literals only, none of them zero or under a power, has a
value under all limits that it fits. -/
theorem evaluate_dividing_by_literals {limits : Limits} {expression : String}
    (wellFormed : WellFormed expression)
    (literals : DividesByLiterals (Text.withoutBlanks expression).toList)
    (admits : limits.Admits expression) : ∃ value, limits.evaluate expression = .ok value := by
  obtain ⟨tokens, tokenizes, derives⟩ := wellFormed.tokenizes
  have shallow := admits.shallow
  rw [← tokenizes.parens_eq] at shallow
  obtain ⟨tree, top, greedy, groups, known, outcome⟩ :=
    derives.exists_tree tokenizes.isOperator_of_mem shallow
  have divides : DividesByNumbers tokens := by
    apply dividesByNumbers_of_lexemes tokenizes.read
    rw [Text.chars_marks, ← Text.withoutBlanks_toList]
    exact literals
  have reckoned := Expr.value_of_known known
  rw [groups.noZeroDivision known divides] at reckoned
  obtain ⟨value, reckoned⟩ := reckoned
  refine ⟨value, ?_⟩
  rw [Limits.evaluate_of_short admits.short, tokenizes_iff.2 tokenizes, outcome, reckoned]
  rfl

/-- Two divisions in a row behind a power, by a literal with a sign and by one without a digit before its point.
The zero is a factor. -/
theorem evaluate_dividing_by_literals_twice :
    WellFormed " 2^(9 - 1)/ -4/.5 * 0" ∧
      DividesByLiterals (Text.withoutBlanks " 2^(9 - 1)/ -4/.5 * 0").toList ∧
        (⟨21, 1⟩ : Limits).Admits " 2^(9 - 1)/ -4/.5 * 0" ∧
          ∃ value, (⟨21, 1⟩ : Limits).evaluate " 2^(9 - 1)/ -4/.5 * 0" = .ok value := by
  have zero : Writes .operand "0".toList :=
    @Writes.literal _ 0 (by decide) (by decide +kernel) (by decide +kernel)
  have one : Writes .operand "1".toList :=
    @Writes.literal _ 1 (by decide) (by decide +kernel) (by decide +kernel)
  have two : Writes .operand "2".toList :=
    @Writes.literal _ 2 (by decide) (by decide +kernel) (by decide +kernel)
  have nine : Writes .operand "9".toList :=
    @Writes.literal _ 9 (by decide) (by decide +kernel) (by decide +kernel)
  have minusFour : Writes .operand "-4".toList :=
    @Writes.literal _ (-4) (by decide) (by decide +kernel) (by decide +kernel)
  have half : Writes .operand ".5".toList :=
    @Writes.literal _ 0.5 (by decide) (by decide +kernel) (by decide +kernel)
  have inside : Writes .expression "9-1".toList := .chain (by decide) (.single nine) one
  have power : Writes .expression "2^(9-1)".toList := .chain (by decide) (.single two) (.group inside)
  have quotient : Writes .expression "2^(9-1)/-4/.5".toList :=
    .chain (by decide) (.chain (by decide) power minusFour) half
  have product : (Text.withoutBlanks " 2^(9 - 1)/ -4/.5 * 0").toList =
      "2^(9-1)/-4/.5".toList ++ '*' :: "0".toList := by decide
  have written : WellFormed " 2^(9 - 1)/ -4/.5 * 0" := by
    rw [WellFormed, product]
    exact .chain (by decide) quotient zero
  have ends : (∀ c ∈ "*0".toList.head?, isNumeric c = false ∧ c ≠ '^') ∧
      ∀ c ∈ "/.5*0".toList.head?, isNumeric c = false ∧ c ≠ '^' := by simp [isNumeric]
  have last : DividesByLiterals ("-4".toList ++ '/' :: (".5".toList ++ "*0".toList)) :=
    @DividesByLiterals.division _ _ _ 0.5 (by decide) (by decide) ends.1 (by decide +kernel)
      (by decide +kernel) (dividesByLiterals_of_not_mem (by decide))
  have split : (Text.withoutBlanks " 2^(9 - 1)/ -4/.5 * 0").toList =
      "2^(9-1)".toList ++ '/' :: ("-4".toList ++ "/.5*0".toList) := by decide
  have literals : DividesByLiterals (Text.withoutBlanks " 2^(9 - 1)/ -4/.5 * 0").toList := by
    rw [split]
    exact @DividesByLiterals.division _ _ _ (-4) (by decide) (by decide) ends.2 (by decide +kernel)
      (by decide +kernel) last
  have admits : (⟨21, 1⟩ : Limits).Admits " 2^(9 - 1)/ -4/.5 * 0" := ⟨by decide, by decide⟩
  exact ⟨written, literals, admits, evaluate_dividing_by_literals written literals admits⟩

end Reckon
