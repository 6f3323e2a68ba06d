import Reckon.Proofs.Enclosure
import Reckon.Proofs.Infix
import Reckon.Proofs.Order
import Reckon.Proofs.Relocation

/-! Rows of marks put side by side. Main statement: the tokens of two rows, one behind the other, are the
tokens of the former and then those of the latter, unless a literal may run on from one into the other. -/

namespace Reckon

open Text (chars)

def Lexeme.endsOperand : Lexeme → Bool
  | number _ _ => true
  | symbol mark => mark.elem == ')'

def Lexeme.operandBehind (afterOperand : Bool) (words : List Lexeme) : Bool :=
  words.foldl (fun _ word => word.endsOperand) afterOperand

/-- Whether an operand stands directly before what comes behind some tokens. -/
def operandBehind (afterOperand : Bool) (tokens : Tokens) : Bool :=
  tokens.foldl (fun _ token => token.elem.endsOperand) afterOperand

theorem gaps_append (afterOperand : Bool) (first second : Tokens) :
    gaps afterOperand (first ++ second) =
      gaps afterOperand first + gaps (operandBehind afterOperand first) second := by
  induction first generalizing afterOperand with
  | nil => exact (Nat.zero_add _).symm
  | cons token rest ih =>
    rw [List.cons_append, gaps, gaps, ih, Nat.add_assoc]
    rfl

theorem Lexeme.endsOperand_of_read {word : Lexeme} {token : Located Token}
    (read : word.read = .ok token) : token.elem.endsOperand = word.endsOperand := by
  cases word with
  | number first more =>
    obtain ⟨value, rfl⟩ := exists_num_of_readNumber read
    rfl
  | symbol mark =>
    rcases read_symbol_cases read with ⟨side, char, rfl⟩ | ⟨known, rfl⟩
    · rw [endsOperand, char]
      cases side <;> rfl
    · rw [endsOperand]
      rcases Operator.sym_of_isOperator known with sym | sym | sym | sym | sym <;> rw [sym] <;> rfl

theorem operandBehind_of_read {words : List Lexeme} {tokens : Tokens}
    (read : words.mapM Lexeme.read = .ok tokens) (afterOperand : Bool) :
    operandBehind afterOperand tokens = Lexeme.operandBehind afterOperand words := by
  induction words generalizing tokens afterOperand with
  | nil =>
    cases read
    rfl
  | cons word rest ih =>
    obtain ⟨token, others, wordRead, restRead, rfl⟩ := mapM_cons_eq_ok read
    have later := ih restRead token.elem.endsOperand
    rw [Lexeme.endsOperand_of_read wordRead] at later
    rw [operandBehind, List.foldl_cons, Lexeme.endsOperand_of_read wordRead]
    exact later

theorem lexemes_append {afterOperand : Bool} {first second : List (Located Char)}
    (apart : Lexeme.operandBehind afterOperand (lexemes afterOperand first) = false ∨
      ∀ mark ∈ second.head?, numericMark mark = false) :
    lexemes afterOperand (first ++ second) = lexemes afterOperand first ++
      lexemes (Lexeme.operandBehind afterOperand (lexemes afterOperand first)) second := by
  fun_induction lexemes afterOperand first with
  | case1 afterOperand => rfl
  | case2 afterOperand mark rest begins ih =>
    have numeric : ∀ mark ∈ rest.takeWhile numericMark, numericMark mark = true :=
      List.all_eq_true.1 List.all_takeWhile
    have ends : ∀ mark ∈ (rest.dropWhile numericMark ++ second).head?,
        numericMark mark = false := by
      have stops := stops_dropWhile numericMark rest
      cases tail : rest.dropWhile numericMark with
      | nil =>
        rw [tail, lexemes_nil] at apart
        exact apart.resolve_left Bool.noConfusion
      | cons next others =>
        rw [tail] at stops
        exact stops
    have parts : rest ++ second =
        rest.takeWhile numericMark ++ (rest.dropWhile numericMark ++ second) := by
      rw [← List.append_assoc, List.takeWhile_append_dropWhile]
    rw [List.cons_append, parts, lexemes_literal begins numeric ends]
    exact congrArg (Lexeme.number mark (rest.takeWhile numericMark) :: ·) (ih apart)
  | case3 afterOperand mark rest single ih =>
    rw [List.cons_append, lexemes_symbol (by simpa using single)]
    exact congrArg (Lexeme.symbol mark :: ·) (ih apart)

/-- The tokens of a row of marks, behind an operand or not. -/
structure Tokenizes (afterOperand : Bool) (marks : List (Located Char)) (tokens : Tokens) : Prop where
  accepted : ∀ mark ∈ marks, isAccepted mark.elem = true
  read : (lexemes afterOperand marks).mapM Lexeme.read = .ok tokens

theorem tokenizes_iff {expression : String} {tokens : Tokens} :
    tokenize expression = .ok tokens ↔
      Tokenizes false (Text.marks 0 expression.toList) tokens := by
  rw [tokenize_eq, tokenizeMarks_eq_ok]
  exact ⟨fun ⟨accepted, read⟩ => ⟨accepted, read⟩, fun ⟨accepted, read⟩ => ⟨accepted, read⟩⟩

theorem Tokenizes.parens_eq {afterOperand : Bool} {offset : Nat} {source : List Char} {tokens : Tokens}
    (tokenizes : Tokenizes afterOperand (Text.marks offset source) tokens) :
    parens tokens = Text.parens source := by
  rw [parens_of_lexemes tokenizes.read, Text.parens_marks]

theorem tokenizes_nil (afterOperand : Bool) : Tokenizes afterOperand [] [] := by
  refine ⟨fun _ none => (nomatch none), ?_⟩
  rw [lexemes_nil]
  rfl

section Tokenizes

variable {afterOperand : Bool} {first second : List (Located Char)} {tokens : Tokens}

theorem Tokenizes.append {front back : Tokens} (one : Tokenizes afterOperand first front)
    (other : Tokenizes (operandBehind afterOperand front) second back)
    (apart : operandBehind afterOperand front = false ∨
      ∀ mark ∈ second.head?, numericMark mark = false) :
    Tokenizes afterOperand (first ++ second) (front ++ back) := by
  rw [operandBehind_of_read one.read] at other apart
  refine ⟨List.forall_mem_append.2 ⟨one.accepted, other.accepted⟩, ?_⟩
  rw [lexemes_append apart]
  exact mapM_append_of_ok one.read other.read

theorem Tokenizes.exists_append (whole : Tokenizes afterOperand (first ++ second) tokens)
    (ends : ∀ mark ∈ second.head?, numericMark mark = false) :
    ∃ front back, tokens = front ++ back ∧ Tokenizes afterOperand first front ∧
      Tokenizes (operandBehind afterOperand front) second back := by
  obtain ⟨firstAccepted, secondAccepted⟩ := List.forall_mem_append.1 whole.accepted
  have read := whole.read
  rw [lexemes_append (.inr ends)] at read
  obtain ⟨front, back, firstRead, secondRead, rfl⟩ := mapM_append_eq_ok read
  rw [← operandBehind_of_read firstRead] at secondRead
  exact ⟨front, back, rfl, ⟨firstAccepted, firstRead⟩, ⟨secondAccepted, secondRead⟩⟩

theorem Lexeme.read_symbol {mark : Located Char} {token : Token}
    (made : Token.ofChar? mark.elem = some token) :
    (Lexeme.symbol mark).read = .ok ⟨token, mark.span⟩ := by
  simp only [Lexeme.read, made]

theorem tokenizes_symbol (mark : Located Char) {token : Token}
    (made : Token.ofChar? mark.elem = some token) (accepted : isAccepted mark.elem = true)
    (single : beginsNumber afterOperand mark = false) {rest : List (Located Char)} :
    Tokenizes afterOperand (mark :: rest) tokens ↔
      ∃ others, tokens = ⟨token, mark.span⟩ :: others ∧ Tokenizes token.endsOperand rest others := by
  have read := Lexeme.read_symbol made
  have context : token.endsOperand = (mark.elem == ')') := Lexeme.endsOperand_of_read read
  constructor
  · intro whole
    have wholeRead := whole.read
    rw [lexemes_symbol single] at wholeRead
    obtain ⟨found, others, markRead, restRead, rfl⟩ := mapM_cons_eq_ok wholeRead
    rw [read] at markRead
    cases markRead
    rw [← context] at restRead
    exact ⟨others, rfl, (List.forall_mem_cons.1 whole.accepted).2, restRead⟩
  · rintro ⟨others, rfl, rest⟩
    refine ⟨List.forall_mem_cons.2 ⟨accepted, rest.accepted⟩, ?_⟩
    rw [lexemes_symbol single, ← context]
    exact mapM_cons_of_ok read rest.read

theorem tokenizes_paren (side : Paren) {span : Span} {rest : List (Located Char)} :
    Tokenizes afterOperand (⟨side.char, span⟩ :: rest) tokens ↔
      ∃ others, tokens = ⟨.paren side, span⟩ :: others ∧
        Tokenizes (Token.paren side).endsOperand rest others := by
  cases side with
  | opening => exact tokenizes_symbol ⟨'(', span⟩ rfl rfl rfl
  | closing => exact tokenizes_symbol ⟨')', span⟩ rfl rfl rfl

theorem tokenizes_operator {sym : Char} (known : isOperator sym = true) {span : Span}
    {rest : List (Located Char)} :
    Tokenizes true (⟨sym, span⟩ :: rest) tokens ↔
      ∃ others, tokens = ⟨.op sym, span⟩ :: others ∧ Tokenizes false rest others := by
  have accepted : isAccepted sym = true := by simp [isAccepted, known]
  have single : beginsNumber true ⟨sym, span⟩ = false := by
    simp [beginsNumber, numericMark, isNumeric_of_isOperator known]
  exact tokenizes_symbol ⟨sym, span⟩ (Token.ofChar?_of_isOperator known) accepted single

theorem tokenizes_group {opening closing : Span} {inner rest : List (Located Char)} :
    Tokenizes afterOperand (⟨'(', opening⟩ :: (inner ++ ⟨')', closing⟩ :: rest)) tokens ↔
      ∃ inside behind, tokens = enclosed opening closing inside ++ behind ∧
        Tokenizes false inner inside ∧ Tokenizes true rest behind := by
  have ends : ∀ mark ∈ (⟨')', closing⟩ :: rest : List (Located Char)).head?,
      numericMark mark = false := by simp [numericMark, isNumeric]
  refine (tokenizes_paren .opening).trans ?_
  constructor
  · rintro ⟨others, rfl, within⟩
    obtain ⟨inside, back, rfl, innerTokens, backTokens⟩ := within.exists_append ends
    obtain ⟨behind, rfl, restTokens⟩ := (tokenizes_paren .closing).1 backTokens
    exact ⟨inside, behind, by simp [enclosed], innerTokens, restTokens⟩
  · rintro ⟨inside, behind, rfl, innerTokens, restTokens⟩
    refine ⟨inside ++ ⟨.paren .closing, closing⟩ :: behind, by simp [enclosed], ?_⟩
    exact innerTokens.append ((tokenizes_paren .closing).2 ⟨behind, rfl, restTokens⟩) (.inr ends)

theorem Tokenizes.literal {mark : Located Char} {more tail : List (Located Char)} {value : Float}
    {others : Tokens} (numeral : isNumeral (chars (mark :: more)) = true)
    (spelled : Decimal.read? (chars (mark :: more)) = some value) (finite : value.isFinite = true)
    (ends : ∀ next ∈ tail.head?, numericMark next = false) (rest : Tokenizes true tail others) :
    Tokenizes false (mark :: (more ++ tail)) (⟨.num value, cover mark more⟩ :: others) := by
  obtain ⟨head, numeric, _⟩ := Lexeme.isNumeral_iff.1 numeral
  refine ⟨?_, ?_⟩
  · exact List.forall_mem_append.2 ⟨Lexeme.isAccepted_of_isNumeral numeral, rest.accepted⟩
  · rw [lexemes_literal head numeric ends]
    exact mapM_cons_of_ok (Lexeme.read_numeral numeral spelled finite) rest.read

theorem Tokenizes.ends_of_noGaps {marks : List (Located Char)}
    (tokenizes : Tokenizes true marks tokens) (noGaps : gaps true tokens = 0) :
    ∀ mark ∈ marks.head?, numericMark mark = false := by
  intro mark head
  rw [Bool.eq_false_iff]
  intro numeric
  obtain ⟨rest, rfl⟩ := List.head?_eq_some_iff.1 head
  have begins : beginsNumber true mark = true := by rw [beginsNumber, numeric, Bool.true_or]
  have read := tokenizes.read
  rw [lexemes_number begins] at read
  obtain ⟨number, others, numberRead, _, rfl⟩ := mapM_cons_eq_ok read
  obtain ⟨value, rfl⟩ := Lexeme.exists_num_of_readNumber numberRead
  simp [gaps, Token.beginsOperand] at noGaps

theorem Tokenizes.relocate {marks : List (Located Char)}
    (tokenizes : Tokenizes afterOperand marks tokens) (places : Relocation) :
    Tokenizes afterOperand (marks.map places.item) (tokens.map places.item) := by
  constructor
  · intro mark member
    obtain ⟨origin, inside, rfl⟩ := List.mem_map.1 member
    exact tokenizes.accepted origin inside
  · rw [places.lexemes_item,
      mapM_natural places.lexeme places.parseError places.item places.read_lexeme, tokenizes.read]
    rfl

theorem Tokenizes.exists_relocate {marks : List (Located Char)} {places : Relocation}
    (tokenizes : Tokenizes afterOperand (marks.map places.item) tokens) :
    ∃ origin, tokens = origin.map places.item ∧ Tokenizes afterOperand marks origin := by
  have read := tokenizes.read
  rw [places.lexemes_item,
    mapM_natural places.lexeme places.parseError places.item places.read_lexeme] at read
  cases originRead : (lexemes afterOperand marks).mapM Lexeme.read with
  | error failure =>
    rw [originRead] at read
    cases read
  | ok origin =>
    rw [originRead] at read
    cases read
    refine ⟨origin, rfl, ?_, originRead⟩
    intro mark member
    exact tokenizes.accepted (places.item mark) (List.mem_map_of_mem member)

theorem Tokenizes.span_le {source : List Char}
    (tokenizes : Tokenizes afterOperand (Text.marks 0 source) tokens) {token : Located Token}
    (member : token ∈ tokens) :
    token.span.start ≤ Text.byteLength source ∧ token.span.stop ≤ Text.byteLength source := by
  have bounds {mark : Located Char} (member : mark ∈ Text.marks 0 source) :
      mark.span.start < mark.span.stop ∧ mark.span.stop ≤ Text.byteLength source := by
    have inside := (List.mem_filter.1 member).1
    have stop := Text.stop_le_of_mem_located inside
    rw [Nat.zero_add] at stop
    exact ⟨(Text.bounds_of_mem_located inside).2, stop⟩
  obtain ⟨word, inside, read⟩ := mem_of_mapM tokenizes.read member
  obtain ⟨first, firstMember, last, lastMember, place⟩ := Lexeme.exists_span_of_read read
  obtain ⟨forward, stop⟩ := bounds (mem_of_mem_lexemes inside firstMember)
  rw [place]
  exact ⟨Nat.le_trans (Nat.le_of_lt forward) stop, (bounds (mem_of_mem_lexemes inside lastMember)).2⟩

end Tokenizes

def Relocation.shift (bytes : Nat) : Relocation := ⟨(· + bytes), (· + bytes)⟩

namespace Text

theorem marks_append (offset : Nat) (first second : List Char) :
    marks offset (first ++ second) = marks offset first ++ marks (offset + byteLength first) second := by
  rw [marks, located_append, List.filter_append]
  rfl

theorem marks_add (offset bytes : Nat) (source : List Char) :
    marks (offset + bytes) source = (marks offset source).map (Relocation.shift bytes).item := by
  induction source generalizing offset with
  | nil => rfl
  | cons c rest ih =>
    have later := ih (offset + c.utf8Size)
    rw [Nat.add_right_comm] at later
    cases blank : isBlank c with
    | true => rw [marks_cons_blank blank, marks_cons_blank blank, later]
    | false =>
      rw [marks_cons_mark blank, marks_cons_mark blank, later, List.map_cons]
      simp only [Relocation.item, Relocation.span, Relocation.shift, Nat.add_right_comm]

theorem marks_shift (bytes : Nat) (source : List Char) :
    marks bytes source = (marks 0 source).map (Relocation.shift bytes).item := by
  rw [← marks_add, Nat.zero_add]

theorem utf8ByteSize_group (group : String) :
    ("(" ++ group ++ ")").utf8ByteSize = group.utf8ByteSize + 2 := by
  have sides : "(".utf8ByteSize = 1 ∧ ")".utf8ByteSize = 1 := ⟨rfl, rfl⟩
  rw [String.utf8ByteSize_append, String.utf8ByteSize_append, sides.1, sides.2]
  omega

theorem marks_group (offset : Nat) (group : String) :
    marks offset ("(" ++ group ++ ")").toList =
      ⟨'(', ⟨offset, offset + 1⟩⟩ ::
        ((marks 0 group.toList).map (Relocation.shift (offset + 1)).item ++
          [⟨')', ⟨offset + 1 + group.utf8ByteSize, offset + 1 + group.utf8ByteSize + 1⟩⟩]) := by
  have text : ("(" ++ group ++ ")").toList = '(' :: (group.toList ++ [')']) := by simp
  have opens : isBlank '(' = false := rfl
  have closes : isBlank ')' = false := rfl
  have size : '('.utf8Size = 1 ∧ ')'.utf8Size = 1 := ⟨rfl, rfl⟩
  rw [text, marks_cons_mark opens, marks_append, marks_cons_mark closes,
    byteLength_toList, size.1, size.2, ← marks_shift]
  rfl

end Text

end Reckon
