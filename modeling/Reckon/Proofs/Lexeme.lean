import Reckon.Proofs.Marks
import Reckon.Proofs.Numeral
import Reckon.Proofs.Operators

/-! The lexemes of a text, cut from its marks before anything is read. Main statement: the tokens of
a text are its lexemes, read one by one. -/

namespace Reckon

open Text (byteLength chars located)

def Paren.char : Paren → Char
  | opening => '('
  | closing => ')'

theorem Paren.ofChar?_eq_some {c : Char} {side : Paren} (made : Paren.ofChar? c = some side) :
    c = side.char := by
  unfold Paren.ofChar? at made
  split at made
  · rw [← Option.some_inj.1 made]
    rfl
  · rw [← Option.some_inj.1 made]
    rfl
  · cases made

theorem Token.ofChar?_eq_some {c : Char} {token : Token} (made : Token.ofChar? c = some token) :
    (∃ side, c = side.char ∧ token = .paren side) ∨ isOperator c = true ∧ token = .op c := by
  unfold Token.ofChar? at made
  split at made
  · next side paren =>
    exact .inl ⟨side, Paren.ofChar?_eq_some paren, (Option.some_inj.1 made).symm⟩
  · split at made
    · next known => exact .inr ⟨known, (Option.some_inj.1 made).symm⟩
    · cases made

inductive Lexeme where
  | number (first : Located Char) (more : List (Located Char))
  | symbol (mark : Located Char)
  deriving DecidableEq, Repr

def cover (first : Located Char) (more : List (Located Char)) : Span :=
  ⟨first.span.start, (more.getLastD first).span.stop⟩

def numericMark (mark : Located Char) : Bool := isNumeric mark.elem

/-- Whether a mark begins a literal. A minus does so unless an operand stands before it. -/
def beginsNumber (afterOperand : Bool) (mark : Located Char) : Bool :=
  numericMark mark || (mark.elem == '-' && !afterOperand)

theorem isBlank_of_isAccepted {c : Char} (accepted : isAccepted c = true) : isBlank c = false := by
  cases blank : isBlank c with
  | false => rfl
  | true =>
    unfold isBlank at blank
    split at blank <;> first | cases accepted | cases blank

theorem cover_located (offset : Nat) (c : Char) (rest : List Char) :
    cover ⟨c, ⟨offset, offset + c.utf8Size⟩⟩ (located (offset + c.utf8Size) rest) =
      ⟨offset, offset + byteLength (c :: rest)⟩ := by
  induction rest generalizing offset c with
  | nil => rfl
  | cons next rest ih =>
    have later := ih (offset + c.utf8Size) next
    rw [cover] at later
    injection later with _ stop
    rw [cover, located, List.getLastD_cons, stop, Nat.add_assoc]
    rfl

namespace Lexeme

def marks : Lexeme → List (Located Char)
  | number first more => first :: more
  | symbol mark => [mark]

def points (first : Located Char) (more : List (Located Char)) : List (Located Char) :=
  (first :: more).filter fun mark => mark.elem == '.'

/-- A literal is refused at its second point, for want of a digit at its first character, and as a
whole if its value is not finite. -/
def readNumber (first : Located Char) (more : List (Located Char)) :
    Except ParseError (Located Token) :=
  match points first more with
  | _ :: second :: _ => .error (.invalidCharacter '.' second.span)
  | _ =>
    if (chars (first :: more)).any Char.isDigit then
      match Decimal.read? (chars (first :: more)) with
      | none => .error (.invalidCharacter first.elem first.span)
      | some value =>
        if value.isFinite then .ok ⟨.num value, cover first more⟩
        else .error (.numberOutOfRange (cover first more))
    else
      .error (.invalidCharacter first.elem first.span)

def read : Lexeme → Except ParseError (Located Token)
  | number first more => readNumber first more
  | symbol mark =>
    match Token.ofChar? mark.elem with
    | none => .error (.invalidCharacter mark.elem mark.span)
    | some token => .ok ⟨token, mark.span⟩

theorem exists_num_of_readNumber {first : Located Char} {more : List (Located Char)}
    {token : Located Token} (read : readNumber first more = .ok token) :
    ∃ value, token = ⟨.num value, cover first more⟩ := by
  unfold readNumber at read
  split at read
  · cases read
  · split at read
    · split at read
      · cases read
      · split at read
        · injection read with read
          exact ⟨_, read.symm⟩
        · cases read
    · cases read

theorem readNumber_eq_error {first : Located Char} {more : List (Located Char)} {error : ParseError}
    (failed : readNumber first more = .error error) :
    (∃ mark ∈ first :: more, error = .invalidCharacter mark.elem mark.span) ∨
      error = .numberOutOfRange (cover first more) ∧ (points first more).length ≤ 1 ∧
        (chars (first :: more)).any Char.isDigit = true := by
  unfold readNumber at failed
  split at failed
  · next point second others two =>
    have inside : second ∈ points first more := by simp [two]
    obtain ⟨member, isPoint⟩ := List.mem_filter.1 inside
    injection failed with failed
    refine .inl ⟨second, member, ?_⟩
    rw [← failed, eq_of_beq isPoint]
  · next few =>
    have onePoint : (points first more).length ≤ 1 := by
      match found : points first more with
      | [] => exact Nat.zero_le 1
      | [_] => exact Nat.le_refl 1
      | point :: second :: others => exact absurd found (few point second others)
    split at failed
    · next digit =>
      split at failed
      · injection failed with failed
        exact .inl ⟨first, List.mem_cons_self, failed.symm⟩
      · split at failed
        · cases failed
        · injection failed with failed
          exact .inr ⟨failed.symm, onePoint, digit⟩
    · injection failed with failed
      exact .inl ⟨first, List.mem_cons_self, failed.symm⟩

theorem length_points (first : Located Char) (more : List (Located Char)) :
    (points first more).length = (chars (first :: more)).count '.' := by
  rw [points, ← List.countP_eq_length_filter, chars, List.count, List.countP_map]
  rfl

theorem points_concat (first : Located Char) (more : List (Located Char)) (mark : Located Char) :
    points first (more ++ [mark]) =
      points first more ++ [mark].filter fun mark => mark.elem == '.' := by
  rw [points, ← List.cons_append, List.filter_append]
  rfl

theorem length_points_concat_le {first mark : Located Char} {more : List (Located Char)}
    (few : (points first more).length ≤ 1) (noOther : mark.elem = '.' → points first more = []) :
    (points first (more ++ [mark])).length ≤ 1 := by
  rw [points_concat]
  by_cases point : mark.elem = '.'
  · simp [point, noOther point]
  · simpa [point] using few

theorem isNumeral_iff {first : Located Char} {more : List (Located Char)} :
    isNumeral (chars (first :: more)) = true ↔
      beginsNumber false first = true ∧
        (∀ mark ∈ more, numericMark mark = true) ∧ (points first more).length ≤ 1 ∧
          (chars (first :: more)).any Char.isDigit = true := by
  have all : (∀ mark ∈ more, numericMark mark = true) ↔ (chars more).all isNumeric = true := by
    simp [chars, numericMark]
  rw [length_points, all, beginsNumber, numericMark, Bool.not_false, Bool.and_true]
  by_cases sign : first.elem = '-'
  · have noDigit : '-'.isDigit = false := rfl
    simp [isNumeral, withoutSign, sign, noDigit, and_assoc, and_comm]
  · have unsigned : withoutSign (chars (first :: more)) = chars (first :: more) :=
      withoutSign_of_ne sign _
    rw [isNumeral, unsigned, beq_eq_false_iff_ne.2 sign]
    simp only [Bool.and_eq_true, Text.chars_cons, List.all_cons, Bool.or_false]
    constructor
    · rintro ⟨⟨⟨head, tail⟩, digit⟩, few⟩
      exact ⟨head, tail, of_decide_eq_true few, digit⟩
    · rintro ⟨head, tail, few, digit⟩
      exact ⟨⟨⟨head, tail⟩, digit⟩, decide_eq_true few⟩

theorem readNumber_of_isNumeral {first : Located Char} {more : List (Located Char)}
    (numeral : isNumeral (chars (first :: more)) = true) :
    readNumber first more =
      match Decimal.read? (chars (first :: more)) with
      | none => .error (.invalidCharacter first.elem first.span)
      | some value =>
        if value.isFinite then .ok ⟨.num value, cover first more⟩
        else .error (.numberOutOfRange (cover first more)) := by
  obtain ⟨_, _, few, digit⟩ := isNumeral_iff.1 numeral
  unfold readNumber
  split
  · next point second points two =>
    rw [two] at few
    simp at few
  · rw [if_pos digit]

theorem read_numeral {first : Located Char} {more : List (Located Char)} {value : Float}
    (numeral : isNumeral (chars (first :: more)) = true)
    (spelled : Decimal.read? (chars (first :: more)) = some value)
    (finite : value.isFinite = true) :
    (number first more).read = .ok ⟨.num value, cover first more⟩ := by
  rw [Lexeme.read, readNumber_of_isNumeral numeral, spelled]
  simp [finite]

theorem isAccepted_of_isNumeral {first : Located Char} {more : List (Located Char)}
    (numeral : isNumeral (chars (first :: more)) = true) :
    ∀ mark ∈ first :: more, isAccepted mark.elem = true := by
  have numeric {c : Char} (numeric : isNumeric c = true) : isAccepted c = true := by
    rcases Bool.or_eq_true_iff.1 numeric with digit | point
    · simp [isAccepted, digit]
    · simp [isAccepted, eq_of_beq point]
  obtain ⟨head, tail, _⟩ := isNumeral_iff.1 numeral
  intro mark member
  rcases List.mem_cons.1 member with rfl | later
  · rcases Bool.or_eq_true_iff.1 head with digits | sign
    · exact numeric digits
    · rw [eq_of_beq (Bool.and_eq_true_iff.1 sign).1]
      decide
  · exact numeric (tail mark later)

theorem read_symbol_eq_error {mark : Located Char} {error : ParseError}
    (failed : (symbol mark).read = .error error) :
    error = .invalidCharacter mark.elem mark.span := by
  simp only [Lexeme.read] at failed
  split at failed
  · injection failed with failed
    exact failed.symm
  · cases failed

theorem read_symbol_eq_ok {mark : Located Char} {token : Located Token}
    (read : (symbol mark).read = .ok token) :
    token.span = mark.span ∧ Token.ofChar? mark.elem = some token.elem := by
  simp only [Lexeme.read] at read
  split at read
  · cases read
  · next found =>
    injection read with read
    rw [← read]
    exact ⟨rfl, found⟩

theorem read_symbol_cases {mark : Located Char} {token : Located Token}
    (read : (symbol mark).read = .ok token) :
    (∃ side, mark.elem = side.char ∧ token = ⟨.paren side, mark.span⟩) ∨
      isOperator mark.elem = true ∧ token = ⟨.op mark.elem, mark.span⟩ := by
  obtain ⟨elem, span⟩ := token
  obtain ⟨rfl, made⟩ := read_symbol_eq_ok read
  rcases Token.ofChar?_eq_some made with ⟨side, char, rfl⟩ | ⟨known, rfl⟩
  · exact .inl ⟨side, char, rfl⟩
  · exact .inr ⟨known, rfl⟩

end Lexeme

/-- A literal is as long as digits and points follow. -/
def lexemes (afterOperand : Bool) : List (Located Char) → List Lexeme
  | [] => []
  | mark :: rest =>
    if beginsNumber afterOperand mark then
      .number mark (rest.takeWhile numericMark) :: lexemes true (rest.dropWhile numericMark)
    else
      .symbol mark :: lexemes (mark.elem == ')') rest
  termination_by marks => marks.length
  decreasing_by
    · exact Nat.lt_succ_of_le (List.dropWhile_suffix _).length_le
    · exact Nat.lt_succ_self _

@[simp] theorem lexemes_nil (afterOperand : Bool) : lexemes afterOperand [] = [] := by
  rw [lexemes]

theorem lexemes_number {afterOperand : Bool} {mark : Located Char}
    (begins : beginsNumber afterOperand mark = true) (rest : List (Located Char)) :
    lexemes afterOperand (mark :: rest) =
      .number mark (rest.takeWhile numericMark) :: lexemes true (rest.dropWhile numericMark) := by
  rw [lexemes, if_pos begins]

theorem lexemes_literal {afterOperand : Bool} {first : Located Char}
    {more tail : List (Located Char)} (begins : beginsNumber afterOperand first = true)
    (numeric : ∀ mark ∈ more, numericMark mark = true)
    (ends : ∀ mark ∈ tail.head?, numericMark mark = false) :
    lexemes afterOperand (first :: (more ++ tail)) = .number first more :: lexemes true tail := by
  have stops : tail.takeWhile numericMark = [] ∧ tail.dropWhile numericMark = tail := by
    cases tail with
    | nil => exact ⟨rfl, rfl⟩
    | cons mark rest => simp [ends mark rfl]
  rw [lexemes_number begins, List.takeWhile_append_of_pos numeric,
    List.dropWhile_append_of_pos numeric, stops.1, stops.2, List.append_nil]

theorem lexemes_symbol {afterOperand : Bool} {mark : Located Char}
    (single : beginsNumber afterOperand mark = false) (rest : List (Located Char)) :
    lexemes afterOperand (mark :: rest) = .symbol mark :: lexemes (mark.elem == ')') rest := by
  rw [lexemes, if_neg (by simp [single])]

theorem flatMap_lexemes (afterOperand : Bool) (marks : List (Located Char)) :
    (lexemes afterOperand marks).flatMap Lexeme.marks = marks := by
  fun_induction lexemes afterOperand marks with
  | case1 afterOperand => rfl
  | case2 afterOperand first rest begins ih =>
    rw [List.flatMap_cons, ih, Lexeme.marks, List.cons_append, List.takeWhile_append_dropWhile]
  | case3 afterOperand mark rest single ih =>
    rw [List.flatMap_cons, ih]
    rfl

theorem mem_of_mem_lexemes {afterOperand : Bool} {marks : List (Located Char)} {word : Lexeme}
    {mark : Located Char} (member : word ∈ lexemes afterOperand marks)
    (inside : mark ∈ word.marks) : mark ∈ marks := by
  rw [← flatMap_lexemes afterOperand marks]
  exact List.mem_flatMap.2 ⟨word, member, inside⟩

theorem beginsNumber_false {afterOperand : Bool} {mark : Located Char}
    (begins : beginsNumber afterOperand mark = true) : beginsNumber false mark = true := by
  cases afterOperand with
  | false => exact begins
  | true =>
    have numeric : numericMark mark = true := by simpa [beginsNumber] using begins
    rw [beginsNumber, numeric, Bool.true_or]

theorem begins_of_mem_lexemes {afterOperand : Bool} {marks more : List (Located Char)}
    {first : Located Char} (member : .number first more ∈ lexemes afterOperand marks) :
    beginsNumber false first = true ∧ ∀ mark ∈ more, numericMark mark = true := by
  fun_induction lexemes afterOperand marks with
  | case1 afterOperand => cases member
  | case2 afterOperand head rest begins ih =>
    rcases List.mem_cons.1 member with same | later
    · injection same with same tail
      rw [same, tail]
      exact ⟨beginsNumber_false begins, List.all_eq_true.1 List.all_takeWhile⟩
    · exact ih later
  | case3 afterOperand mark rest single ih =>
    rcases List.mem_cons.1 member with same | later
    · cases same
    · exact ih later

theorem lexemes_opening (afterOperand : Bool) (span : Span) (rest : List (Located Char)) :
    lexemes afterOperand (⟨'(', span⟩ :: rest) = .symbol ⟨'(', span⟩ :: lexemes false rest :=
  lexemes_symbol rfl rest

theorem lexemes_closing (afterOperand : Bool) (span : Span) (rest : List (Located Char)) :
    lexemes afterOperand (⟨')', span⟩ :: rest) = .symbol ⟨')', span⟩ :: lexemes true rest :=
  lexemes_symbol rfl rest

variable {sym : Char}

theorem isNumeric_of_isOperator (known : isOperator sym = true) : isNumeric sym = false := by
  rcases Operator.sym_of_isOperator known with rfl | rfl | rfl | rfl | rfl <;> rfl

theorem isBlank_of_isOperator (known : isOperator sym = true) : isBlank sym = false := by
  rcases Operator.sym_of_isOperator known with rfl | rfl | rfl | rfl | rfl <;> rfl

theorem utf8Size_of_isOperator (known : isOperator sym = true) : sym.utf8Size = 1 := by
  rcases Operator.sym_of_isOperator known with rfl | rfl | rfl | rfl | rfl <;> rfl

theorem Token.ofChar?_of_isOperator (known : isOperator sym = true) :
    Token.ofChar? sym = some (.op sym) := by
  rcases Operator.sym_of_isOperator known with rfl | rfl | rfl | rfl | rfl <;> rfl

theorem lexemes_operator (known : isOperator sym = true) (span : Span)
    (rest : List (Located Char)) :
    lexemes true (⟨sym, span⟩ :: rest) = .symbol ⟨sym, span⟩ :: lexemes false rest := by
  rcases Operator.sym_of_isOperator known with rfl | rfl | rfl | rfl | rfl <;>
    exact lexemes_symbol rfl rest

theorem Lexeme.read_operator (known : isOperator sym = true) (span : Span) :
    (Lexeme.symbol ⟨sym, span⟩).read = .ok ⟨.op sym, span⟩ := by
  rcases Operator.sym_of_isOperator known with rfl | rfl | rfl | rfl | rfl <;> rfl

end Reckon
