import Reckon.Proofs.Moves
import Reckon.Proofs.Pipeline
import Reckon.Proofs.Tokenize

/-! Where the marks of a text stand does not matter. Main statement: if its marks are put elsewhere, a
text has the same value or the same failure, with the span of it put elsewhere too. -/

namespace Reckon

open Text (chars)

/-- A change of places. Starts and stops change on their own, for the blanks between two marks may
change as well. -/
structure Relocation where
  start : Nat → Nat
  stop : Nat → Nat

namespace Relocation

variable (places : Relocation)

def span (span : Span) : Span := ⟨places.start span.start, places.stop span.stop⟩

def item {α : Type} (item : Located α) : Located α := ⟨item.elem, places.span item.span⟩

def lexeme : Lexeme → Lexeme
  | .number first more => .number (places.item first) (more.map places.item)
  | .symbol mark => .symbol (places.item mark)

def parseError : ParseError → ParseError
  | .invalidCharacter found span => .invalidCharacter found (places.span span)
  | .unbalancedParentheses span => .unbalancedParentheses (places.span span)
  | .numberOutOfRange span => .numberOutOfRange (places.span span)
  | .nestingTooDeep max span => .nestingTooDeep max (places.span span)
  | .inputTooLong length max => .inputTooLong length max

def evalError : EvalError → EvalError
  | .insufficientOperands op span => .insufficientOperands op (places.span span)
  | .divisionByZero span => .divisionByZero (places.span span)
  | .unsupportedOperator op span => .unsupportedOperator op (places.span span)
  | .malformedExpression values => .malformedExpression values
  | .strayParenthesis span => .strayParenthesis (places.span span)

def failure : Failure → Failure
  | .parse error => .parse (places.parseError error)
  | .eval error => .eval (places.evalError error)

def conversion (conversion : Postfix.Conversion) : Postfix.Conversion :=
  ⟨conversion.listed.map places.item, ⟨conversion.waiting.items.map places.item⟩, conversion.depth⟩

theorem chars_item (marks : List (Located Char)) : chars (marks.map places.item) = chars marks := by
  simp [chars, item]

theorem ends_iff {marks : List (Located Char)} :
    (∀ mark ∈ (marks.map places.item).head?, numericMark mark = false) ↔
      ∀ mark ∈ marks.head?, numericMark mark = false := by
  cases marks <;> simp [numericMark, item]

theorem cover_item (first : Located Char) (more : List (Located Char)) :
    cover (places.item first) (more.map places.item) = places.span (cover first more) := by
  have last : (more.map places.item).getLastD (places.item first) =
      places.item (more.getLastD first) := by
    simp [List.getLastD_eq_getLast?, List.getLast?_map, Option.getD_map]
  rw [cover, last]
  rfl

theorem lexemes_item (afterOperand : Bool) (marks : List (Located Char)) :
    lexemes afterOperand (marks.map places.item) =
      (lexemes afterOperand marks).map places.lexeme := by
  fun_induction lexemes afterOperand marks with
  | case1 afterOperand => exact lexemes_nil afterOperand
  | case2 afterOperand first rest begins ih =>
    have begins : beginsNumber afterOperand (places.item first) = true := begins
    rw [List.map_cons, lexemes_number begins, List.takeWhile_map, List.dropWhile_map]
    exact congrArg _ ih
  | case3 afterOperand mark rest single ih =>
    have single : beginsNumber afterOperand (places.item mark) = false :=
      Bool.eq_false_iff.2 single
    rw [List.map_cons, lexemes_symbol single]
    exact congrArg _ ih

theorem validateMarks_item (marks : List (Located Char)) :
    validateMarks (marks.map places.item) = (validateMarks marks).mapError places.parseError := by
  have found : (marks.map places.item).find? foreignMark =
      (marks.find? foreignMark).map places.item := by
    rw [List.find?_map]
    rfl
  rw [validateMarks, validateMarks, found]
  cases marks.find? foreignMark <;> rfl

theorem readNumber_item (first : Located Char) (more : List (Located Char)) :
    Lexeme.readNumber (places.item first) (more.map places.item) =
      ((Lexeme.readNumber first more).mapError places.parseError).map places.item := by
  have points : Lexeme.points (places.item first) (more.map places.item) =
      (Lexeme.points first more).map places.item := by
    rw [Lexeme.points, ← List.map_cons, List.filter_map]
    rfl
  have text : chars (places.item first :: more.map places.item) = chars (first :: more) :=
    places.chars_item (first :: more)
  rw [Lexeme.readNumber, Lexeme.readNumber, points, text, cover_item]
  rcases Lexeme.points first more with _ | ⟨point, _ | ⟨second, others⟩⟩
  case cons.cons => rfl
  all_goals
    cases (chars (first :: more)).any Char.isDigit with
    | false => rfl
    | true =>
      cases Decimal.read? (chars (first :: more)) with
      | none => rfl
      | some value =>
        cases finite : value.isFinite <;> simp [finite, Except.map, Except.mapError] <;> rfl

theorem read_lexeme (word : Lexeme) :
    (places.lexeme word).read = (word.read.mapError places.parseError).map places.item := by
  cases word with
  | number first more => exact places.readNumber_item first more
  | symbol mark =>
    simp only [lexeme, Lexeme.read, item]
    cases Token.ofChar? mark.elem <;> rfl

theorem tokenizeMarks_item (marks : List (Located Char)) :
    tokenizeMarks (marks.map places.item) =
      ((tokenizeMarks marks).mapError places.parseError).map (List.map places.item) := by
  rw [tokenizeMarks, tokenizeMarks, validateMarks_item, lexemes_item,
    mapM_natural places.lexeme places.parseError places.item places.read_lexeme]
  cases validateMarks marks <;> rfl

section Conversion

open Postfix (Conversion)
open Postfix.Conversion (Moves accept accept_cases accept_of_full accept_of_alone)

variable {maxDepth : Nat}

theorem forall_mem_map_item {test : Located Token → Bool} {tokens : Tokens}
    (same : ∀ token, test (places.item token) = test token)
    (passes : ∀ token ∈ tokens, test token = true) :
    ∀ token ∈ tokens.map places.item, test token = true := by
  intro token member
  obtain ⟨origin, inside, rfl⟩ := List.mem_map.1 member
  rw [same]
  exact passes origin inside

theorem map_append_item (listed : Array (Located Token)) (others : Tokens) :
    (listed ++ others).map places.item = listed.map places.item ++ others.map places.item := by
  apply Array.toList_inj.1
  simp

theorem moves_item {before after : Conversion} {token : Located Token}
    (moves : Moves maxDepth before token after) :
    Moves maxDepth (places.conversion before) (places.item token) (places.conversion after) := by
  cases moves with
  | lists value span =>
    simp only [conversion, Array.map_push]
    exact .lists value _
  | waits span found carries holds =>
    simp only [conversion, map_append_item, List.map_append, List.map_cons]
    refine .waits _ found (places.forall_mem_map_item (fun _ => rfl) carries) ?_
    intro token head
    rw [List.head?_map] at head
    obtain ⟨origin, first, rfl⟩ := Option.map_eq_some_iff.1 head
    exact holds origin first
  | blocks span unknown => exact .blocks _ unknown
  | opens span room => exact .opens _ room
  | closes opening span inside =>
    simp only [conversion, map_append_item, List.map_append, List.map_cons]
    exact .closes _ _ (places.forall_mem_map_item (fun _ => rfl) inside)

theorem accept_item (maxDepth : Nat) (before : Conversion) (token : Located Token) :
    accept maxDepth (places.conversion before) (places.item token) =
      ((accept maxDepth before token).mapError places.parseError).map places.conversion := by
  rcases accept_cases maxDepth before token with ⟨after, moves⟩ | ⟨opening, full⟩ | ⟨closing, alone⟩
  · rw [moves.accept]
    exact (places.moves_item moves).accept
  · rw [accept_of_full opening full]
    exact accept_of_full opening full
  · rw [accept_of_alone closing alone]
    exact accept_of_alone closing (places.forall_mem_map_item (fun _ => rfl) alone)

theorem finish_item (last : Conversion) :
    (places.conversion last).finish =
      (last.finish.mapError places.parseError).map (List.map places.item) := by
  obtain ⟨listed, ⟨waiting⟩, depth⟩ := last
  rcases Conversion.all_notOpening_or_exists_opening waiting with
    closed | ⟨inner, opening, outer, rfl, inside⟩
  · have closedThere := places.forall_mem_map_item (fun _ => rfl) closed
    rw [Conversion.finish_of_closed closed, conversion, Conversion.finish_of_closed closedThere]
    simp [Except.map, Except.mapError]
  · have insideThere := places.forall_mem_map_item (fun _ => rfl) inside
    rw [Conversion.finish_of_open inside, conversion, List.map_append, List.map_cons]
    exact Conversion.finish_of_open insideThere _ _ _ _

theorem ofTokens_item (maxDepth : Nat) (tokens : Tokens) :
    Postfix.ofTokens maxDepth (tokens.map places.item) =
      ((Postfix.ofTokens maxDepth tokens).mapError places.parseError).map (List.map places.item) := by
  have run := foldlM_natural places.item places.parseError places.conversion
    (places.accept_item maxDepth) tokens Conversion.empty
  have start : places.conversion .empty = .empty := by
    simp [conversion, Conversion.empty, Stack.empty]
  rw [start] at run
  change ((tokens.map places.item).foldlM (accept maxDepth) .empty).bind Conversion.finish =
    (((tokens.foldlM (accept maxDepth) .empty).bind Conversion.finish).mapError
      places.parseError).map (List.map places.item)
  rw [run]
  cases tokens.foldlM (accept maxDepth) Conversion.empty with
  | error failure => rfl
  | ok last => exact places.finish_item last

theorem ofTokens_item_of_ok {tokens listing : Tokens}
    (listed : Postfix.ofTokens maxDepth tokens = .ok listing) :
    Postfix.ofTokens maxDepth (tokens.map places.item) = .ok (listing.map places.item) := by
  rw [ofTokens_item, listed]
  rfl

end Conversion

section Evaluation

open Postfix (apply reckon)

theorem apply_span (sym : Char) (left right : Float) (span : Span) :
    apply sym left right (places.span span) =
      (apply sym left right span).mapError places.evalError := by
  unfold apply
  split <;> try rfl
  split <;> rfl

theorem reckon_item (values : Stack Float) (token : Located Token) :
    reckon values (places.item token) = (reckon values token).mapError places.evalError := by
  obtain ⟨items⟩ := values
  obtain ⟨elem, span⟩ := token
  cases elem with
  | num value => rfl
  | op sym =>
    match items with
    | [] => rfl
    | [_] => rfl
    | right :: left :: below =>
      simp only [item, reckon, apply_span]
      cases apply sym left right span <;> rfl
  | paren side =>
    cases items with
    | nil => rfl
    | cons top below => cases below <;> rfl

theorem evaluate_item (listing : Tokens) :
    Postfix.evaluate (listing.map places.item) =
      (Postfix.evaluate listing).mapError places.evalError := by
  have unchanged (values : Stack Float) (token : Located Token) :
      reckon (id values) (places.item token) =
        ((reckon values token).mapError places.evalError).map id := by
    rw [id, reckon_item]
    cases reckon values token <;> rfl
  have run := foldlM_natural places.item places.evalError id unchanged listing Stack.empty
  change ((listing.map places.item).foldlM reckon (id .empty)).bind Postfix.result =
    ((listing.foldlM reckon .empty).bind Postfix.result).mapError places.evalError
  rw [run]
  cases listing.foldlM reckon Stack.empty with
  | error failure => rfl
  | ok values =>
    obtain ⟨items⟩ := values
    match items with
    | [] => rfl
    | [_] => rfl
    | _ :: _ :: _ => rfl

end Evaluation

theorem reckonTokens_map (maxDepth : Nat) (tokens : Tokens) :
    reckonTokens maxDepth (.ok (tokens.map places.item)) =
      (reckonTokens maxDepth (.ok tokens)).mapError places.failure := by
  cases listed : Postfix.ofTokens maxDepth tokens with
  | error error =>
    have unlisted : Postfix.ofTokens maxDepth (tokens.map places.item) =
        .error (places.parseError error) := by
      rw [ofTokens_item, listed]
      rfl
    rw [reckonTokens_of_unlisted listed, reckonTokens_of_unlisted unlisted]
    rfl
  | ok listing =>
    rw [reckonTokens_of_listed listed,
      reckonTokens_of_listed (places.ofTokens_item_of_ok listed), evaluate_item]
    cases Postfix.evaluate listing <;> rfl

theorem reckonTokens_item (maxDepth : Nat) (marks : List (Located Char)) :
    reckonTokens maxDepth (tokenizeMarks (marks.map places.item)) =
      (reckonTokens maxDepth (tokenizeMarks marks)).mapError places.failure := by
  rw [tokenizeMarks_item]
  cases tokenizeMarks marks with
  | error failure => rfl
  | ok tokens => exact places.reckonTokens_map maxDepth tokens

end Relocation

end Reckon
