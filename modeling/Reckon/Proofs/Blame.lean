import Reckon.Proofs.Balance
import Reckon.Proofs.Pipeline
import Reckon.Proofs.Reckoning
import Reckon.Proofs.Slices
import Reckon.Proofs.Tokenize

/-! Where failures point. Main statements: a failure with a span names the piece of the text that it is
about, and only a length and a count of values have no place in the text; no text brings about a failure
that only a parenthesis or a foreign operator in a listing can cause. -/

namespace Reckon

open Text (Slices chars)

/-- The pieces of a text that a failure may point at. -/
def Failure.Spells : Failure → List Char → Prop
  | parse (.invalidCharacter found _), piece => piece = [found]
  | parse (.unbalancedParentheses _), piece => piece = ['('] ∨ piece = [')']
  | parse (.nestingTooDeep _ _), piece => piece = ['(']
  | parse (.numberOutOfRange _), piece =>
    (∀ c ∈ piece.head?, isBlank c = false) ∧ (∀ c ∈ piece.getLast?, isBlank c = false) ∧
      isNumeral (piece.filter fun c => !isBlank c) = true
  | eval (.insufficientOperands op _), piece => piece = [op] ∧ isOperator op = true
  | eval (.divisionByZero _), piece => piece = ['/']
  | _, _ => False

def PointsAt (expression : String) (failure : Failure) : Prop :=
  ∃ span piece, failure.span? = some span ∧ piece ≠ [] ∧ Slices expression span piece ∧
    failure.Spells piece

variable {expression : String} {tokens : Tokens}

theorem pointsAt_mark {mark : Located Char} (member : mark ∈ Text.marks 0 expression.toList) :
    PointsAt expression (.parse (.invalidCharacter mark.elem mark.span)) :=
  ⟨mark.span, [mark.elem], rfl, List.cons_ne_nil _ _, Text.slices_of_mem_marks member, rfl⟩

theorem pointsAt_literal {first : Located Char} {more : List (Located Char)}
    (member : .number first more ∈ lexemes false (Text.marks 0 expression.toList))
    (few : (Lexeme.points first more).length ≤ 1)
    (digit : (chars (first :: more)).any Char.isDigit = true) :
    PointsAt expression (.parse (.numberOutOfRange (cover first more))) := by
  have written {mark : Located Char} (inside : mark ∈ first :: more) : isBlank mark.elem = false :=
    Text.notBlank_of_mem_marks (mem_of_mem_lexemes member inside)
  obtain ⟨begins, numeric⟩ := begins_of_mem_lexemes member
  have numeral := Lexeme.isNumeral_iff.2 ⟨begins, numeric, few, digit⟩
  obtain ⟨piece, slices, head, last, kept⟩ := Text.slices_literal member
  refine ⟨cover first more, piece, rfl, ?_, slices, ?_, ?_, ?_⟩
  · rintro rfl
    cases head
  · intro c at_
    rw [← Option.some_inj.1 (head.symm.trans at_)]
    exact written List.mem_cons_self
  · intro c at_
    rw [← Option.some_inj.1 (last.symm.trans at_)]
    exact written List.getLastD_mem_cons
  · rw [kept]
    exact numeral

theorem tokenize_eq_error {error : ParseError} (failed : tokenize expression = .error error) :
    PointsAt expression (.parse error) := by
  rw [tokenize_eq, tokenizeMarks] at failed
  rcases bind_eq_error.1 failed with invalid | ⟨_, _, unread⟩
  · obtain ⟨mark, member, rfl⟩ := validateMarks_eq_error invalid
    exact pointsAt_mark member
  · obtain ⟨word, member, unread⟩ := mapM_eq_error unread
    cases word with
    | number first more =>
      rcases Lexeme.readNumber_eq_error unread with ⟨mark, inside, rfl⟩ | ⟨rfl, few, digit⟩
      · exact pointsAt_mark (mem_of_mem_lexemes member inside)
      · exact pointsAt_literal member few digit
    | symbol mark =>
      rw [Lexeme.read_symbol_eq_error unread]
      exact pointsAt_mark (mem_of_mem_lexemes member List.mem_cons_self)

section Marks

variable {afterOperand : Bool}
  (read : (lexemes afterOperand (Text.marks 0 expression.toList)).mapM Lexeme.read = .ok tokens)

include read

theorem mark_of_mem_tokens {token : Located Token} (member : token ∈ tokens) :
    token.elem.isNum = true ∨ ∃ mark ∈ Text.marks 0 expression.toList, mark.span = token.span ∧
      Token.ofChar? mark.elem = some token.elem := by
  obtain ⟨word, inside, read⟩ := mem_of_mapM read member
  cases word with
  | number first more =>
    obtain ⟨value, rfl⟩ := Lexeme.exists_num_of_readNumber read
    exact .inl rfl
  | symbol mark =>
    obtain ⟨span, made⟩ := Lexeme.read_symbol_eq_ok read
    exact .inr ⟨mark, mem_of_mem_lexemes inside List.mem_cons_self, span.symm, made⟩

theorem slices_of_op {sym : Char} {span : Span} (member : ⟨.op sym, span⟩ ∈ tokens) :
    Slices expression span [sym] ∧ isOperator sym = true := by
  rcases mark_of_mem_tokens read member with number | ⟨mark, inside, rfl, made⟩
  · cases number
  · rcases Token.ofChar?_eq_some made with ⟨side, _, paren⟩ | ⟨known, same⟩
    · cases paren
    · injection same with same
      rw [same]
      exact ⟨Text.slices_of_mem_marks inside, known⟩

theorem slices_of_paren {side : Paren} {span : Span} (member : ⟨.paren side, span⟩ ∈ tokens) :
    Slices expression span [side.char] := by
  rcases mark_of_mem_tokens read member with number | ⟨mark, inside, rfl, made⟩
  · cases number
  · rcases Token.ofChar?_eq_some made with ⟨other, char, same⟩ | ⟨known, operator⟩
    · injection same with same
      rw [same, ← char]
      exact Text.slices_of_mem_marks inside
    · cases operator

end Marks

theorem pointsAt_of_unlisted {maxDepth : Nat} {error : ParseError}
    (read : tokenize expression = .ok tokens)
    (unlisted : Postfix.ofTokens maxDepth tokens = .error error) :
    PointsAt expression (.parse error) := by
  have read := mapM_read_of_tokenize read
  obtain ⟨token, member, blamed⟩ := Postfix.ofTokens_eq_error unlisted
  cases error with
  | unbalancedParentheses span =>
    obtain ⟨side, rfl⟩ := blamed
    refine ⟨span, [side.char], rfl, List.cons_ne_nil _ _, slices_of_paren read member, ?_⟩
    cases side with
    | opening => exact .inl rfl
    | closing => exact .inr rfl
  | nestingTooDeep max span =>
    cases blamed
    exact ⟨span, ['('], rfl, List.cons_ne_nil _ _, slices_of_paren read member, rfl⟩
  | invalidCharacter found span => cases blamed
  | numberOutOfRange span => cases blamed
  | inputTooLong length max => cases blamed

theorem pointsAt_of_blamed {maxDepth : Nat} {listing : Tokens} {token : Located Token}
    {error : EvalError} (read : tokenize expression = .ok tokens)
    (listed : Postfix.ofTokens maxDepth tokens = .ok listing) (member : token ∈ listing)
    (blamed : error.Blames token) : PointsAt expression (.eval error) := by
  have read := mapM_read_of_tokenize read
  have kept := (Postfix.ofTokens_perm listed).mem_iff.1 member
  obtain ⟨inside, noParen⟩ := List.mem_filter.1 kept
  cases error with
  | insufficientOperands sym span =>
    cases blamed
    obtain ⟨slices, known⟩ := slices_of_op read inside
    exact ⟨span, [sym], rfl, List.cons_ne_nil _ _, slices, rfl, known⟩
  | divisionByZero span =>
    cases blamed
    exact ⟨span, ['/'], rfl, List.cons_ne_nil _ _, (slices_of_op read inside).1, rfl⟩
  | unsupportedOperator sym span =>
    obtain ⟨rfl, unknown⟩ := blamed
    rw [(slices_of_op read inside).2] at unknown
    cases unknown
  | strayParenthesis span =>
    obtain ⟨side, rfl⟩ := blamed
    cases noParen
  | malformedExpression count => cases blamed

theorem evaluate_pointsAt {limits : Limits} {failure : Failure}
    (failed : limits.evaluate expression = .error failure) :
    PointsAt expression failure ∨ (∃ length max, failure = .parse (.inputTooLong length max)) ∨
      ∃ count, failure = .eval (.malformedExpression count) := by
  rcases Limits.evaluate_eq_error failed with
    long | ⟨error, unread, rfl⟩ | ⟨tokens, read, ⟨error, unlisted, rfl⟩ | reckoned⟩
  · exact .inr (.inl ⟨_, _, long⟩)
  · exact .inl (tokenize_eq_error unread)
  · exact .inl (pointsAt_of_unlisted read unlisted)
  · obtain ⟨listing, error, listed, valueless, rfl⟩ := reckoned
    rcases Postfix.evaluate_eq_error valueless with ⟨token, member, blamed⟩ | ⟨count, rfl⟩
    · exact .inl (pointsAt_of_blamed read listed member blamed)
    · exact .inr (.inr ⟨count, rfl⟩)

/-- A failure with a span points at the piece of the text that it is about, and only a text that is
too long and a count of values other than one have none. -/
theorem span_of_failure {limits : Limits} {failure : Failure}
    (failed : limits.evaluate expression = .error failure) :
    match failure.span? with
    | none => (∃ length max, failure = .parse (.inputTooLong length max)) ∨
        ∃ count, failure = .eval (.malformedExpression count)
    | some span => span.start < span.stop ∧ span.stop ≤ expression.utf8ByteSize ∧
        (⟨span.start⟩ : String.Pos.Raw).IsValid expression ∧
          (⟨span.stop⟩ : String.Pos.Raw).IsValid expression ∧
            failure.Spells (String.Pos.Raw.extract expression ⟨span.start⟩ ⟨span.stop⟩).toList := by
  rcases evaluate_pointsAt failed with
    ⟨span, piece, place, nonempty, slices, spells⟩ | ⟨length, max, rfl⟩ | ⟨count, rfl⟩
  · rw [place]
    refine ⟨slices.start_lt_stop nonempty, slices.stop_le, slices.isValid.1, slices.isValid.2, ?_⟩
    rw [slices.extract_eq nonempty, String.toList_ofList]
    exact spells
  · exact .inl ⟨length, max, rfl⟩
  · exact .inr ⟨count, rfl⟩

/-- The foreign character takes three bytes, and all of them are blamed. -/
theorem span_of_foreign_character :
    ({} : Limits).evaluate "2 - ∞" = .error (.parse (.invalidCharacter '∞' ⟨4, 7⟩)) ∧
      (String.Pos.Raw.extract "2 - ∞" ⟨4⟩ ⟨7⟩).toList = ['∞'] := by
  have failed : ({} : Limits).evaluate "2 - ∞" = .error (.parse (.invalidCharacter '∞' ⟨4, 7⟩)) := by
    decide +kernel
  obtain ⟨_, _, _, _, spells⟩ := span_of_failure failed
  exact ⟨failed, spells⟩

theorem Postfix.paren?_of_mem_listing {maxDepth : Nat} {listing : Tokens}
    (listed : ofTokens maxDepth tokens = .ok listing) {token : Located Token}
    (member : token ∈ listing) : token.elem.paren? = none := by
  have kept := (ofTokens_perm listed).mem_iff.1 member
  exact Option.isNone_iff_eq_none.1 (List.mem_filter.1 kept).2

theorem Postfix.evaluate_ne_strayParenthesis {maxDepth : Nat} {listing : Tokens}
    (listed : ofTokens maxDepth tokens = .ok listing) (span : Span) :
    evaluate listing ≠ .error (.strayParenthesis span) := by
  intro failed
  rcases evaluate_eq_error failed with ⟨token, member, side, rfl⟩ | ⟨count, malformed⟩
  · cases paren?_of_mem_listing listed member
  · cases malformed

theorem PointsAt.kind {failure : Failure} (points : PointsAt expression failure) :
    failure.kind ≠ .internal ∧ failure.kind ≠ .unsupportedOperator := by
  obtain ⟨span, piece, _, _, _, spells⟩ := points
  cases failure with
  | parse error => cases error <;> exact ⟨nofun, nofun⟩
  | eval error =>
    cases error with
    | unsupportedOperator op place => exact spells.elim
    | strayParenthesis place => exact spells.elim
    | insufficientOperands op place => exact ⟨nofun, nofun⟩
    | divisionByZero place => exact ⟨nofun, nofun⟩
    | malformedExpression values => exact ⟨nofun, nofun⟩

/-- No text fails by a fault of the library or by an operator that is none, and no listing of a row of
tokens, with whatever operators, fails by a parenthesis. -/
theorem no_internal_failure (limits : Limits) (expression : String) :
    (∀ failure, limits.evaluate expression = .error failure →
      failure.isInternal = false ∧ failure.kind ≠ .internal ∧
        failure.kind ≠ .unsupportedOperator) ∧
      ∀ maxDepth tokens listing, Postfix.ofTokens maxDepth tokens = .ok listing →
        ∀ span, Postfix.evaluate listing ≠ .error (.strayParenthesis span) := by
  constructor
  · intro failure failed
    have faultless : failure.kind ≠ .internal ∧ failure.kind ≠ .unsupportedOperator := by
      rcases evaluate_pointsAt failed with points | ⟨length, max, rfl⟩ | ⟨count, rfl⟩
      · exact points.kind
      · exact ⟨nofun, nofun⟩
      · exact ⟨nofun, nofun⟩
    exact ⟨beq_eq_false_iff_ne.2 faultless.1, faultless⟩
  · intro maxDepth tokens listing listed span
    exact Postfix.evaluate_ne_strayParenthesis listed span

/-- An operator token that holds a parenthesis comes through as an operator, and as one it is refused. -/
theorem no_internal_failure_disguised_parenthesis :
    let tokens : Tokens := [⟨.paren .opening, ⟨0, 1⟩⟩, ⟨.num 1, ⟨1, 2⟩⟩, ⟨.op ')', ⟨2, 3⟩⟩,
      ⟨.num 2, ⟨3, 4⟩⟩, ⟨.paren .closing, ⟨4, 5⟩⟩]
    let listing : Tokens := [⟨.num 1, ⟨1, 2⟩⟩, ⟨.num 2, ⟨3, 4⟩⟩, ⟨.op ')', ⟨2, 3⟩⟩]
    ({} : Limits).evaluate "1)" = .error (.parse (.unbalancedParentheses ⟨1, 2⟩)) ∧
      Failure.isInternal (.parse (.unbalancedParentheses ⟨1, 2⟩)) = false ∧
        Postfix.ofTokens 1 tokens = .ok listing ∧
          Postfix.evaluate listing = .error (.unsupportedOperator ')' ⟨2, 3⟩) ∧
            Postfix.evaluate listing ≠ .error (.strayParenthesis ⟨2, 3⟩) := by
  intro tokens listing
  have failed : ({} : Limits).evaluate "1)" = .error (.parse (.unbalancedParentheses ⟨1, 2⟩)) := by
    decide +kernel
  have listed : Postfix.ofTokens 1 tokens = .ok listing := by decide +kernel
  have refused : Postfix.evaluate listing = .error (.unsupportedOperator ')' ⟨2, 3⟩) := by
    decide +kernel
  obtain ⟨texts, rows⟩ := no_internal_failure {} "1)"
  exact ⟨failed, (texts _ failed).1, listed, refused, rows 1 tokens listing listed _⟩

end Reckon
