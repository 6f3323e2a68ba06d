import Reckon.Proofs.Blanks
import Reckon.Proofs.Grouping
import Reckon.Proofs.Seams
import Reckon.Proofs.Tree

/-! Texts that follow the grammar. Main statements: their tokens follow it too, every row of tokens that
does groups as a tree, and one with operators of the table only has a value unless it divides by zero. -/

namespace Reckon

open Text (chars)

theorem Derives.exists_groups {phrase : Phrase} {tokens : Tokens} (derives : Derives phrase tokens) :
    ∃ tree top greedy, Groups tokens tree top greedy ∧
      (phrase = .operand → top = none ∧ greedy = false) := by
  induction derives with
  | num value span => exact ⟨_, _, _, .num value span, fun _ => ⟨rfl, rfl⟩⟩
  | paren opening closing inside ih =>
    obtain ⟨tree, top, greedy, groups, _⟩ := ih
    exact ⟨_, _, _, .paren opening closing groups, fun _ => ⟨rfl, rfl⟩⟩
  | single operand ih =>
    obtain ⟨tree, top, greedy, groups, _⟩ := ih
    exact ⟨tree, top, greedy, groups, nofun⟩
  | chain sym span before behind beforeStep behindStep =>
    obtain ⟨tree, top, greedy, groups, _⟩ := beforeStep
    obtain ⟨lastTree, lastTop, lastGreedy, lastGroups, single⟩ := behindStep
    obtain ⟨rfl, rfl⟩ := single rfl
    obtain ⟨newTree, newTop, newGreedy, newGroups, _⟩ := groups.extend sym span lastGroups
    exact ⟨newTree, newTop, newGreedy, newGroups, nofun⟩

theorem Groups.known {tokens : Tokens} {tree : Expr} {top : Option Operator} {greedy : Bool}
    (groups : Groups tokens tree top greedy)
    (known : ∀ sym span, ⟨.op sym, span⟩ ∈ tokens → isOperator sym = true) : tree.Known := by
  have operands {left right : Tokens} {sym : Char} {span : Span}
      (known : ∀ other place, ⟨.op other, place⟩ ∈ left ++ ⟨.op sym, span⟩ :: right →
        isOperator other = true) :
      isOperator sym = true ∧ (∀ other place, ⟨.op other, place⟩ ∈ left → isOperator other = true) ∧
        ∀ other place, ⟨.op other, place⟩ ∈ right → isOperator other = true := by
    refine ⟨known sym span ?_, ?_, ?_⟩
    · exact List.mem_append_right _ List.mem_cons_self
    · intro other place member
      exact known other place (List.mem_append_left _ member)
    · intro other place member
      exact known other place (List.mem_append_right _ (List.mem_cons_of_mem _ member))
  induction groups with
  | num value span => trivial
  | paren opening closing groups ih =>
    apply ih
    intro sym span member
    exact known sym span (List.mem_cons_of_mem _ (List.mem_append_left _ member))
  | operator span found leftGroups rightGroups leftBinds rightBinds leftStep rightStep =>
    obtain ⟨here, left, right⟩ := operands known
    exact ⟨here, leftStep left, rightStep right⟩
  | foreign span unknown leftGroups rightGroups leftStep rightStep =>
    obtain ⟨here, left, right⟩ := operands known
    exact ⟨here, leftStep left, rightStep right⟩

theorem mem_of_divisionByZero {maxDepth : Nat} {tokens : Tokens} {span : Span}
    (divides : reckonTokens maxDepth (.ok tokens) = .error (.eval (.divisionByZero span))) :
    ⟨.op '/', span⟩ ∈ tokens := by
  rcases reckonTokens_eq_error divides with
    ⟨_, unread, _⟩ | ⟨row, read, ⟨_, _, other⟩ | ⟨listing, error, listed, valueless, same⟩⟩
  · cases unread
  · cases other
  · cases read
    cases same
    have kept := Postfix.ofTokens_perm listed
    rcases Postfix.evaluate_eq_error valueless with ⟨token, member, rfl⟩ | ⟨count, other⟩
    · exact (List.mem_filter.1 (kept.mem_iff.1 member)).1
    · cases other

theorem Derives.exists_tree {maxDepth : Nat} {tokens : Tokens} (derives : Derives .expression tokens)
    (known : ∀ sym span, ⟨.op sym, span⟩ ∈ tokens → isOperator sym = true)
    (shallow : Paren.deepest 0 (parens tokens) ≤ maxDepth) :
    ∃ tree top greedy, Groups tokens tree top greedy ∧ tree.Known ∧
      reckonTokens maxDepth (.ok tokens) = tree.value.mapError .eval := by
  obtain ⟨tree, top, greedy, groups, _⟩ := derives.exists_groups
  refine ⟨tree, top, greedy, groups, groups.known known, ?_⟩
  rw [reckonTokens_of_listed (groups.ofTokens shallow), Expr.evaluate_listing]

theorem Derives.reckonTokens {maxDepth : Nat} {tokens : Tokens}
    (derives : Derives .expression tokens)
    (known : ∀ sym span, ⟨.op sym, span⟩ ∈ tokens → isOperator sym = true)
    (shallow : Paren.deepest 0 (parens tokens) ≤ maxDepth) :
    (∃ value, reckonTokens maxDepth (.ok tokens) = .ok value) ∨
      ∃ span, reckonTokens maxDepth (.ok tokens) = .error (.eval (.divisionByZero span)) := by
  obtain ⟨tree, _, _, _, treeKnown, outcome⟩ := derives.exists_tree known shallow
  have value := Expr.value_of_known treeKnown
  rw [outcome]
  split at value
  · obtain ⟨result, value⟩ := value
    exact .inl ⟨result, by rw [value]; rfl⟩
  · next span _ => exact .inr ⟨span, by rw [value]; rfl⟩

/-- The grammar of texts without blanks: operands with an operator between any two, of which each is a
finite literal or an expression in parentheses. -/
inductive Writes : Phrase → List Char → Prop
  | literal {text : List Char} {value : Float} (numeral : isNumeral text = true)
      (spelled : Decimal.read? text = some value) (finite : value.isFinite = true) :
      Writes .operand text
  | group {inner : List Char} (inside : Writes .expression inner) :
      Writes .operand ('(' :: (inner ++ [')']))
  | single {text : List Char} (operand : Writes .operand text) : Writes .expression text
  | chain {first last : List Char} {sym : Char} (known : isOperator sym = true)
      (before : Writes .expression first) (behind : Writes .operand last) :
      Writes .expression (first ++ sym :: last)

def WellFormed (expression : String) : Prop :=
  Writes .expression (Text.withoutBlanks expression).toList

theorem Writes.tokenizes {phrase : Phrase} {text : List Char} (writes : Writes phrase text)
    {marks tail : List (Located Char)} {others : Tokens} (spelled : chars marks = text)
    (ends : ∀ mark ∈ tail.head?, numericMark mark = false) (rest : Tokenizes true tail others) :
    ∃ tokens, Tokenizes false (marks ++ tail) (tokens ++ others) ∧ Derives phrase tokens := by
  induction writes generalizing marks tail others with
  | @literal text value numeral read finite =>
    cases marks with
    | nil =>
      rw [← spelled] at numeral
      cases numeral
    | cons first more =>
      rw [← spelled] at numeral read
      exact ⟨[⟨.num value, cover first more⟩], .literal numeral read finite ends rest,
        .num value _⟩
  | @group inner inside ih =>
    obtain ⟨⟨_, opening⟩, behind, rfl, rfl, behindChars⟩ := List.map_eq_cons_iff.1 spelled
    obtain ⟨innerMarks, last, rfl, innerChars, lastChars⟩ := List.map_eq_append_iff.1 behindChars
    obtain ⟨⟨_, closing⟩, none, rfl, rfl, nothing⟩ := List.map_eq_cons_iff.1 lastChars
    rw [List.map_eq_nil_iff.1 nothing]
    obtain ⟨tokens, within, derives⟩ := ih innerChars (by simp) (tokenizes_nil true)
    rw [List.append_nil, List.append_nil] at within
    refine ⟨enclosed opening closing tokens, ?_, .paren opening closing derives⟩
    rw [List.cons_append, List.append_assoc]
    exact tokenizes_group.2 ⟨tokens, others, rfl, within, rest⟩
  | single operand ih =>
    obtain ⟨tokens, tokenizes, derives⟩ := ih spelled ends rest
    exact ⟨tokens, tokenizes, .single derives⟩
  | chain known before behind beforeStep behindStep =>
    obtain ⟨front, back, rfl, frontChars, backChars⟩ := List.map_eq_append_iff.1 spelled
    obtain ⟨⟨sym, span⟩, lastMarks, rfl, rfl, lastChars⟩ := List.map_eq_cons_iff.1 backChars
    have known : isOperator sym = true := known
    obtain ⟨lastTokens, behindTokens, behindDerives⟩ := behindStep lastChars ends rest
    have apart : ∀ mark ∈ (⟨sym, span⟩ :: (lastMarks ++ tail) : List (Located Char)).head?,
        numericMark mark = false := by simp [numericMark, isNumeric_of_isOperator known]
    have fromOperator : Tokenizes true (⟨sym, span⟩ :: (lastMarks ++ tail))
        (⟨.op sym, span⟩ :: (lastTokens ++ others)) :=
      (tokenizes_operator known).2 ⟨_, rfl, behindTokens⟩
    obtain ⟨firstTokens, whole, derives⟩ := beforeStep frontChars apart fromOperator
    refine ⟨firstTokens ++ ⟨.op sym, span⟩ :: lastTokens, ?_, .chain sym span derives behindDerives⟩
    rw [List.append_assoc, List.append_assoc]
    exact whole

theorem WellFormed.tokenizes {expression : String} (wellFormed : WellFormed expression) :
    ∃ tokens, Tokenizes false (Text.marks 0 expression.toList) tokens ∧
      Derives .expression tokens := by
  have spelled : chars (Text.marks 0 expression.toList) =
      (Text.withoutBlanks expression).toList := by
    rw [Text.chars_marks, Text.withoutBlanks_toList]
  obtain ⟨tokens, tokenizes, derives⟩ := Writes.tokenizes wellFormed spelled (by simp)
    (tokenizes_nil true)
  rw [List.append_nil, List.append_nil] at tokenizes
  exact ⟨tokens, tokenizes, derives⟩

theorem Tokenizes.isOperator_of_mem {expression : String} {tokens : Tokens}
    (tokenizes : Tokenizes false (Text.marks 0 expression.toList) tokens) (sym : Char) (span : Span)
    (member : ⟨.op sym, span⟩ ∈ tokens) : isOperator sym = true :=
  (slices_of_op tokenizes.read member).2

structure Limits.Admits (limits : Limits) (expression : String) : Prop where
  short : expression.utf8ByteSize ≤ limits.maxInputLen
  shallow : Paren.deepest 0 (Text.parens expression.toList) ≤ limits.maxNestingDepth

theorem WellFormed.evaluate {limits : Limits} {expression : String}
    (wellFormed : WellFormed expression) (admits : limits.Admits expression) :
    (∃ value, limits.evaluate expression = .ok value) ∨
      ∃ span, limits.evaluate expression = .error (.eval (.divisionByZero span)) := by
  obtain ⟨tokens, tokenizes, derives⟩ := wellFormed.tokenizes
  have shallow := admits.shallow
  rw [← tokenizes.parens_eq] at shallow
  rw [Limits.evaluate_of_short admits.short, tokenizes_iff.2 tokenizes]
  exact derives.reckonTokens tokenizes.isOperator_of_mem shallow

end Reckon
