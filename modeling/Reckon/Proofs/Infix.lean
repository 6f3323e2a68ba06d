import Reckon.Proofs.Balance
import Reckon.Proofs.Pipeline
import Reckon.Proofs.Reckoning

/-! Expressions in infix form, in which operands and operators take turns. Main statement: a text with
a value is such an expression unless an operand stands directly behind another one, and each such pair
is made up for by a place where an operand is missing. -/

namespace Reckon

inductive Phrase where
  | operand
  | expression

/-- The infix grammar: an expression is a row of operands with an operator between any two, and an
operand is a number or an expression in parentheses. -/
inductive Derives : Phrase → Tokens → Prop
  | num (value : Float) (span : Span) : Derives .operand [⟨.num value, span⟩]
  | paren {inner : Tokens} (opening closing : Span) (inside : Derives .expression inner) :
      Derives .operand (⟨.paren .opening, opening⟩ :: (inner ++ [⟨.paren .closing, closing⟩]))
  | single {tokens : Tokens} (operand : Derives .operand tokens) : Derives .expression tokens
  | chain {first last : Tokens} (sym : Char) (span : Span) (before : Derives .expression first)
      (behind : Derives .operand last) : Derives .expression (first ++ ⟨.op sym, span⟩ :: last)

def Token.beginsOperand : Token → Bool
  | .num _ => true
  | .paren .opening => true
  | _ => false

def Token.endsOperand : Token → Bool
  | .num _ => true
  | .paren .closing => true
  | _ => false

/-- How often an operand stands directly behind another one. -/
def gaps (afterOperand : Bool) : Tokens → Nat
  | [] => 0
  | token :: rest =>
    (if afterOperand && token.elem.beginsOperand then 1 else 0) + gaps token.elem.endsOperand rest

/-- How often an operand is missing where one is expected. -/
def holes (afterOperand : Bool) : Tokens → Nat
  | [] => if afterOperand then 0 else 1
  | token :: rest =>
    (if afterOperand || token.elem.beginsOperand then 0 else 1) + holes token.elem.endsOperand rest

theorem numbers_add_holes (afterOperand : Bool) (tokens : Tokens) :
    afterOperand.toNat + numbers tokens + holes afterOperand tokens =
      1 + operators tokens + gaps afterOperand tokens := by
  induction tokens generalizing afterOperand with
  | nil => cases afterOperand <;> rfl
  | cons token rest ih =>
    have later := ih token.elem.endsOperand
    rw [numbers, operators, List.countP_cons, List.countP_cons, gaps, holes]
    obtain ⟨elem, span⟩ := token
    cases elem with
    | num value =>
      simp only [numbers, operators, Token.isNum, Token.isOp,
        Token.endsOperand, Token.beginsOperand, Bool.toNat_true] at later ⊢
      cases afterOperand <;> simp <;> omega
    | op sym =>
      simp only [numbers, operators, Token.isNum, Token.isOp,
        Token.endsOperand, Token.beginsOperand, Bool.toNat_false] at later ⊢
      cases afterOperand <;> simp <;> omega
    | paren side =>
      simp only [numbers, operators, Token.isNum, Token.isOp] at later ⊢
      cases side <;> cases afterOperand <;>
        simp [Token.endsOperand, Token.beginsOperand] at later ⊢ <;> omega

theorem Derives.gaps_append {phrase : Phrase} {tokens : Tokens} (derives : Derives phrase tokens)
    (rest : Tokens) :
    gaps false (tokens ++ rest) = gaps true rest ∧ holes false (tokens ++ rest) = holes true rest := by
  induction derives generalizing rest with
  | num value span => simp [gaps, holes, Token.beginsOperand, Token.endsOperand]
  | @paren inner opening closing inside ih =>
    obtain ⟨noGaps, noHoles⟩ := ih (⟨.paren .closing, closing⟩ :: rest)
    constructor
    · simp [gaps, Token.beginsOperand, Token.endsOperand, noGaps]
    · simp [holes, Token.beginsOperand, Token.endsOperand, noHoles]
  | single operand ih => exact ih rest
  | @chain first last sym span before behind ihBefore ihBehind =>
    obtain ⟨gapsBefore, holesBefore⟩ := ihBefore (⟨.op sym, span⟩ :: (last ++ rest))
    obtain ⟨gapsBehind, holesBehind⟩ := ihBehind rest
    rw [List.append_assoc, List.cons_append, gapsBefore, holesBefore]
    simp [gaps, holes, Token.beginsOperand, Token.endsOperand, gapsBehind, holesBehind]

/-- What has been read of an expression: all of it, or all but an operand. -/
def Reads (afterOperand : Bool) (tokens : Tokens) : Prop :=
  if afterOperand then Derives .expression tokens
  else ∀ operand, Derives .operand operand → Derives .expression (tokens ++ operand)

theorem reads_nil : Reads false [] := fun _ derived => .single derived

/-- A row within parentheses that are still open, each with what stands before it. -/
def enclose : List (Tokens × Span) → Tokens → Tokens
  | [], inner => inner
  | (before, opening) :: outer, inner => enclose outer (before ++ ⟨.paren .opening, opening⟩ :: inner)

/-- Reads the rest of an expression. The induction carries what was read before each parenthesis that
is still open, so that the closing one makes an operand of all that was read since. -/
theorem derives_enclose {maxDepth : Nat} {contexts : List (Tokens × Span)} {afterOperand : Bool}
    {current rest : Tokens} (before : ∀ context ∈ contexts, Reads false context.1)
    (reads : Reads afterOperand current)
    (balanced : checkParens maxDepth (contexts.map (·.2)) rest = .ok ())
    (noGaps : gaps afterOperand rest = 0) (noHoles : holes afterOperand rest = 0) :
    Derives .expression (enclose contexts (current ++ rest)) := by
  induction rest generalizing contexts afterOperand current with
  | nil =>
    cases contexts with
    | cons context outer => cases balanced
    | nil =>
      cases afterOperand with
      | false => cases noHoles
      | true => exact (List.append_nil current).symm ▸ reads
  | cons token rest ih =>
    obtain ⟨elem, span⟩ := token
    have noneLater := Nat.add_eq_zero_iff.1 noGaps
    have noneMissing := Nat.add_eq_zero_iff.1 noHoles
    rw [← List.singleton_append, ← List.append_assoc]
    cases elem with
    | num value =>
      cases afterOperand with
      | true => cases noneLater.1
      | false =>
        have read : Reads true (current ++ [⟨.num value, span⟩]) := reads _ (.num value span)
        exact ih before read balanced noneLater.2 noneMissing.2
    | op sym =>
      cases afterOperand with
      | false => cases noneMissing.1
      | true =>
        have read : Reads false (current ++ [⟨.op sym, span⟩]) := by
          intro operand derived
          rw [List.append_assoc]
          exact .chain sym span reads derived
        exact ih before read balanced noneLater.2 noneMissing.2
    | paren side =>
      cases side with
      | opening =>
        cases afterOperand with
        | true => cases noneLater.1
        | false =>
          have inner : Derives .expression (enclose ((current, span) :: contexts) ([] ++ rest)) := by
            refine ih ?_ reads_nil (checkParens_opening_ok balanced) noneLater.2 noneMissing.2
            exact List.forall_mem_cons.2 ⟨reads, before⟩
          rw [List.append_assoc]
          exact inner
      | closing =>
        cases afterOperand with
        | false => cases noneMissing.1
        | true =>
          match contexts with
          | [] => cases balanced
          | (front, opening) :: outer =>
            obtain ⟨readsFront, beforeOuter⟩ := List.forall_mem_cons.1 before
            have read : Reads true
                (front ++ ⟨.paren .opening, opening⟩ :: (current ++ [⟨.paren .closing, span⟩])) :=
              readsFront _ (.paren opening span reads)
            have later := ih beforeOuter read balanced noneLater.2 noneMissing.2
            rw [List.append_assoc, List.cons_append] at later
            exact later

theorem derives_iff {maxDepth : Nat} {tokens : Tokens}
    (balanced : checkParens maxDepth [] tokens = .ok ()) :
    Derives .expression tokens ↔ gaps false tokens = 0 ∧ holes false tokens = 0 := by
  constructor
  · intro derives
    have turns := derives.gaps_append []
    rw [List.append_nil] at turns
    exact turns
  · rintro ⟨noGaps, noHoles⟩
    have whole : Derives .expression (enclose [] ([] ++ tokens)) :=
      derives_enclose (fun _ none => nomatch none) reads_nil balanced noGaps noHoles
    exact whole

/-- A text with a value is an expression unless an operand stands directly behind another one. Such
pairs are as many as the places where an operand is missing, which the count of values evens out. -/
theorem derives_of_value_iff {limits : Limits} {expression : String} {value : Float}
    (reckoned : limits.evaluate expression = .ok value) :
    ∃ tokens, tokenize expression = .ok tokens ∧ gaps false tokens = holes false tokens ∧
      (Derives .expression tokens ↔ gaps false tokens = 0) := by
  obtain ⟨tokens, listing, read, listed, result⟩ := Limits.evaluate_eq_ok reckoned
  have balanced : checkParens limits.maxNestingDepth [] tokens = .ok () := by
    rw [← Postfix.ofTokens_outcome, listed]
    rfl
  have count := Postfix.numbers_of_value result
  have sameNumbers := Postfix.countP_of_listed listed Token.isNum fun _ => rfl
  have sameOperators := Postfix.countP_of_listed listed Token.isOp fun _ => rfl
  rw [numbers, operators, sameNumbers, sameOperators] at count
  have turns := numbers_add_holes false tokens
  rw [numbers, operators, count, Bool.toNat_false] at turns
  have even : gaps false tokens = holes false tokens := by omega
  refine ⟨tokens, read, even, ?_⟩
  rw [derives_iff balanced, ← even, and_self]

/-- An operator behind its operands has a value, although operands stand side by side. -/
theorem not_derives_of_value :
    ({} : Limits).evaluate "(2)(3)+" = .ok 5 ∧
      ∃ tokens, tokenize "(2)(3)+" = .ok tokens ∧ ¬Derives .expression tokens := by
  have reckoned : ({} : Limits).evaluate "(2)(3)+" = .ok 5 := by decide +kernel
  obtain ⟨tokens, read, _, turns⟩ := derives_of_value_iff reckoned
  have gap : (tokenize "(2)(3)+").map (gaps false) = .ok 1 := by decide +kernel
  rw [read] at gap
  injection gap with gap
  refine ⟨reckoned, tokens, read, ?_⟩
  rw [turns, gap]
  exact Nat.one_ne_zero

end Reckon
