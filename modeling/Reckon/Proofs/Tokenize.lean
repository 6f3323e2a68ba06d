import Reckon.Proofs.Lexeme
import Reckon.Proofs.Nesting
import Reckon.Proofs.Sequences

/-! The scan reads the lexemes of its marks. The induction carries the literal that is pending, which
takes the digits and points that are still to come. -/

namespace Reckon

open Text (chars)

def Written (mark : Located Char) : Prop := Text.Sized mark ∧ isBlank mark.elem = false

theorem written_of_mem_marks {offset : Nat} {source : List Char} {mark : Located Char}
    (member : mark ∈ Text.marks offset source) : Written mark :=
  ⟨Text.sized_of_mem_marks member, Text.notBlank_of_mem_marks member⟩

namespace Literal

def ofMarks (first : Located Char) (more : List (Located Char)) : Literal where
  text := String.ofList (chars (first :: more))
  span := cover first more
  hasDigit := (chars (first :: more)).any Char.isDigit
  hasDot := (chars (first :: more)).any (· == '.')

theorem isDigit_of_begins {afterOperand : Bool} {mark : Located Char}
    (begins : beginsNumber afterOperand mark = true) :
    mark.elem.isDigit = (mark.elem != '.' && mark.elem != '-') := by
  rcases Bool.or_eq_true_iff.1 begins with numeric | sign
  · have noSign : mark.elem ≠ '-' := by
      intro sign
      rw [numericMark, sign] at numeric
      cases numeric
    rw [isDigit_eq_of_numeric numeric, bne_iff_ne.2 noSign, Bool.and_true]
  · rw [eq_of_beq (Bool.and_eq_true_iff.1 sign).1]
    rfl

theorem utf8Size_of_begins {afterOperand : Bool} {mark : Located Char}
    (begins : beginsNumber afterOperand mark = true) : mark.elem.utf8Size = 1 := by
  rcases Bool.or_eq_true_iff.1 begins with numeric | sign
  · exact utf8Size_numeric numeric
  · rw [eq_of_beq (Bool.and_eq_true_iff.1 sign).1]
    rfl

theorem push_startingAt {afterOperand : Bool} {mark : Located Char} (sized : Text.Sized mark)
    (begins : beginsNumber afterOperand mark = true) :
    (startingAt mark.span.start).push mark.span.start mark.elem = ofMarks mark [] := by
  have digit := isDigit_of_begins begins
  have text : "".push mark.elem = String.ofList [mark.elem] := rfl
  simp [push, startingAt, ofMarks, cover, digit, text, sized.symm]

theorem push_ofMarks {mark : Located Char} (sized : Text.Sized mark)
    (numeric : numericMark mark = true) (first : Located Char) (more : List (Located Char)) :
    (ofMarks first more).push mark.span.start mark.elem = ofMarks first (more ++ [mark]) := by
  have begins : beginsNumber true mark = true := by simp [beginsNumber, numeric]
  have digit := isDigit_of_begins begins
  have text : (String.ofList (chars (first :: more))).push mark.elem =
      String.ofList (chars (first :: (more ++ [mark]))) := by
    apply String.toList_inj.1
    simp
  simp only [push, text, ofMarks]
  simp [cover, sized.symm, digit, Bool.or_assoc]

theorem close_ofMarks {afterOperand : Bool} {first : Located Char} {more : List (Located Char)}
    (sized : Text.Sized first) (begins : beginsNumber afterOperand first = true)
    (few : (Lexeme.points first more).length ≤ 1) :
    (ofMarks first more).close = Lexeme.readNumber first more := by
  have firstSpan : (⟨first.span.start, first.span.start + 1⟩ : Span) = first.span := by
    rw [← utf8Size_of_begins begins, ← sized]
  have onePoint (second : Located Char) (points : List (Located Char)) :
      ∀ point, Lexeme.points first more ≠ point :: second :: points := by
    intro point two
    rw [two] at few
    simp at few
  unfold Lexeme.readNumber
  split
  · next point second points two => exact absurd two (onePoint second points point)
  · simp only [close, ofMarks, String.toList_ofList]
    rw [show (⟨(cover first more).start, (cover first more).start + 1⟩ : Span) = first.span from
      firstSpan]
    rfl

end Literal

namespace Scan

variable {tokens : Array (Located Token)} {mark : Located Char}

theorem take_first (written : Written mark)
    (begins : beginsNumber (!expectsOperand ⟨tokens, none⟩) mark = true) :
    take ⟨tokens, none⟩ mark = .ok ⟨tokens, some (.ofMarks mark [])⟩ := by
  have extended : extend ⟨tokens, none⟩ mark.span.start mark.elem =
      ⟨tokens, some (.ofMarks mark [])⟩ := by
    rw [extend, Option.getD_none, Literal.push_startingAt written.1 begins]
  simp only [take, step, written.2, Bool.false_eq_true, if_false]
  split
  · rw [extended]
  · next notDigit =>
    split
    · rw [extended]
      rfl
    · next notPoint =>
      have sign : mark.elem = '-' ∧ expectsOperand ⟨tokens, none⟩ = true := by
        simpa [beginsNumber, numericMark, isNumeric, notDigit, notPoint] using begins
      simp only [flush, Except.bind, symbol]
      rw [if_pos sign, extended]

theorem take_more (written : Written mark) (numeric : numericMark mark = true)
    {first : Located Char} {more : List (Located Char)}
    (few : mark.elem = '.' → Lexeme.points first more = []) :
    take ⟨tokens, some (.ofMarks first more)⟩ mark =
      .ok ⟨tokens, some (.ofMarks first (more ++ [mark]))⟩ := by
  have extended : extend ⟨tokens, some (.ofMarks first more)⟩ mark.span.start mark.elem =
      ⟨tokens, some (.ofMarks first (more ++ [mark]))⟩ := by
    rw [extend, Option.getD_some, Literal.push_ofMarks written.1 numeric]
  simp only [take, step, written.2, Bool.false_eq_true, if_false]
  split
  · rw [extended]
  · next notDigit =>
    have point : mark.elem = '.' := by
      simpa [numericMark, isNumeric, notDigit] using numeric
    have noDot : (Literal.ofMarks first more).hasDot = false := by
      simpa [Literal.ofMarks, Text.chars, Lexeme.points] using few point
    rw [if_pos point, Option.any_some, noDot, if_neg Bool.false_ne_true, extended]

theorem take_second_point (written : Written mark) (point : mark.elem = '.')
    {first : Located Char} {more : List (Located Char)}
    (other : Lexeme.points first more ≠ []) :
    take ⟨tokens, some (.ofMarks first more)⟩ mark = .error (.invalidCharacter '.' mark.span) := by
  have hasDot : (Literal.ofMarks first more).hasDot = true := by
    cases dot : (Literal.ofMarks first more).hasDot with
    | true => rfl
    | false =>
      refine absurd ?_ other
      simpa [Literal.ofMarks, Text.chars, Lexeme.points] using dot
  have digit : '.'.isDigit = false := rfl
  have blank : isBlank '.' = false := rfl
  have span : (⟨mark.span.start, mark.span.start + 1⟩ : Span) = mark.span := by
    have sized := written.1
    rw [Text.Sized, point] at sized
    rw [show mark.span.start + 1 = mark.span.stop from sized.symm]
  simp [take, step, point, blank, digit, hasDot, span]

/-- Behind a literal a character is taken as if the number had been there before. -/
theorem take_behind (written : Written mark) (single : numericMark mark = false)
    (literal : Literal) :
    take ⟨tokens, some literal⟩ mark =
      literal.close.bind fun number => take ⟨tokens.push number, none⟩ mark := by
  simp only [numericMark, isNumeric, Bool.or_eq_false_iff, beq_eq_false_iff_ne] at single
  simp only [take, step, written.2, single, Bool.false_eq_true, if_false, flush]
  cases literal.close <;> rfl

theorem take_symbol (written : Written mark)
    (single : beginsNumber (!expectsOperand ⟨tokens, none⟩) mark = false) :
    take ⟨tokens, none⟩ mark =
      (Lexeme.symbol mark).read.map fun token => ⟨tokens.push token, none⟩ := by
  have span : (⟨mark.span.start, mark.span.start + mark.elem.utf8Size⟩ : Span) = mark.span := by
    rw [← written.1]
  simp only [beginsNumber, numericMark, isNumeric, Bool.or_eq_false_iff, beq_eq_false_iff_ne,
    Bool.and_eq_false_iff, Bool.not_eq_false'] at single
  have noSign : ¬(mark.elem = '-' ∧ expectsOperand ⟨tokens, none⟩ = true) := by
    rintro ⟨sign, expects⟩
    simp [sign, expects] at single
  simp only [take, step, written.2, single, Bool.false_eq_true, if_false, flush, Except.bind,
    symbol, noSign, span, Lexeme.read]
  cases Token.ofChar? mark.elem <;> rfl

theorem foldlM_take_numeric {digits : List (Located Char)}
    (written : ∀ mark ∈ digits, Written mark) (numeric : ∀ mark ∈ digits, numericMark mark = true)
    {first : Located Char} {more : List (Located Char)}
    (few : (Lexeme.points first more).length ≤ 1) :
    digits.foldlM take ⟨tokens, some (.ofMarks first more)⟩ =
      match Lexeme.points first (more ++ digits) with
      | _ :: second :: _ => .error (.invalidCharacter '.' second.span)
      | _ => .ok ⟨tokens, some (.ofMarks first (more ++ digits))⟩ := by
  induction digits generalizing more with
  | nil =>
    rw [List.append_nil]
    split
    · next point second points two =>
      rw [two] at few
      simp at few
    · rfl
  | cons mark rest ih =>
    obtain ⟨writtenMark, writtenRest⟩ := List.forall_mem_cons.1 written
    obtain ⟨numericMark, numericRest⟩ := List.forall_mem_cons.1 numeric
    have joined : more ++ mark :: rest = more ++ [mark] ++ rest := by simp
    by_cases second : mark.elem = '.' ∧ Lexeme.points first more ≠ []
    · obtain ⟨point, other⟩ := second
      obtain ⟨before, onePoint⟩ : ∃ before, Lexeme.points first more = [before] := by
        rw [← List.length_eq_one_iff]
        have positive := List.length_pos_iff.2 other
        omega
      have two : Lexeme.points first (more ++ mark :: rest) =
          before :: mark :: rest.filter (fun mark => mark.elem == '.') := by
        rw [joined, Lexeme.points, ← List.cons_append, List.filter_append, ← Lexeme.points,
          Lexeme.points_concat, onePoint]
        simp [point]
      rw [List.foldlM_cons, take_second_point writtenMark point other, two]
      rfl
    · have noOther : mark.elem = '.' → Lexeme.points first more = [] := by
        intro point
        exact Decidable.not_not.1 (not_and.1 second point)
      rw [List.foldlM_cons, take_more writtenMark numericMark noOther, joined]
      exact ih writtenRest numericRest (Lexeme.length_points_concat_le few noOther)

theorem foldlM_take_behind {afterOperand : Bool} {first : Located Char}
    {more tail : List (Located Char)} (writtenFirst : Written first)
    (begins : beginsNumber afterOperand first = true)
    (few : (Lexeme.points first more).length ≤ 1) (written : ∀ mark ∈ tail, Written mark)
    (ends : ∀ mark ∈ tail.head?, numericMark mark = false) :
    (tail.foldlM take ⟨tokens, some (.ofMarks first more)⟩).bind flush =
      (Lexeme.readNumber first more).bind fun number =>
        (tail.foldlM take ⟨tokens.push number, none⟩).bind flush := by
  have closed := Literal.close_ofMarks writtenFirst.1 begins few
  cases tail with
  | nil =>
    change (Literal.ofMarks first more).close.map _ = _
    rw [closed]
    cases Lexeme.readNumber first more <;> rfl
  | cons mark rest =>
    have single := ends mark rfl
    simp only [List.foldlM_cons, take_behind (written mark List.mem_cons_self) single, closed]
    cases Lexeme.readNumber first more <;> rfl

theorem foldlM_take_number {digits tail : List (Located Char)} {first : Located Char}
    (writtenFirst : Written first) (writtenDigits : ∀ mark ∈ digits, Written mark)
    (writtenTail : ∀ mark ∈ tail, Written mark)
    (numeric : ∀ mark ∈ digits, numericMark mark = true)
    (ends : ∀ mark ∈ tail.head?, numericMark mark = false)
    (begins : beginsNumber (!expectsOperand ⟨tokens, none⟩) first = true) :
    ((first :: (digits ++ tail)).foldlM take ⟨tokens, none⟩).bind flush =
      (Lexeme.readNumber first digits).bind fun number =>
        (tail.foldlM take ⟨tokens.push number, none⟩).bind flush := by
  have onePoint : (Lexeme.points first []).length ≤ 1 := List.length_filter_le _ _
  rw [List.foldlM_cons, take_first writtenFirst begins]
  change ((digits ++ tail).foldlM take _).bind flush = _
  rw [List.foldlM_append, foldlM_take_numeric writtenDigits numeric onePoint, List.nil_append]
  cases split : Lexeme.points first digits with
  | nil =>
    have few : (Lexeme.points first digits).length ≤ 1 := by simp [split]
    exact foldlM_take_behind writtenFirst begins few writtenTail ends
  | cons point points =>
    cases points with
    | nil =>
      have few : (Lexeme.points first digits).length ≤ 1 := by simp [split]
      exact foldlM_take_behind writtenFirst begins few writtenTail ends
    | cons second points =>
      rw [Lexeme.readNumber, split]
      rfl

theorem expectsOperand_push_number (tokens : Array (Located Token)) {first : Located Char}
    {digits : List (Located Char)} {number : Located Token} (read : Lexeme.readNumber first digits = .ok number) :
    expectsOperand ⟨tokens.push number, none⟩ = false := by
  obtain ⟨value, rfl⟩ := Lexeme.exists_num_of_readNumber read
  simp [expectsOperand, Token.isOp, Token.isOpening]

theorem expectsOperand_push_symbol (tokens : Array (Located Token)) {token : Located Token}
    (read : (Lexeme.symbol mark).read = .ok token) :
    expectsOperand ⟨tokens.push token, none⟩ = !(mark.elem == ')') := by
  simp only [expectsOperand, Array.back?_push]
  rcases Lexeme.read_symbol_cases read with ⟨side, char, rfl⟩ | ⟨known, rfl⟩
  · rw [char]
    cases side <;> rfl
  · rcases Operator.sym_of_isOperator known with sym | sym | sym | sym | sym <;> rw [sym] <;> rfl

/-- What the scan makes of marks: their lexemes, read from left to right. -/
theorem foldlM_take {afterOperand : Bool} {marks : List (Located Char)}
    (written : ∀ mark ∈ marks, Written mark)
    (context : (!expectsOperand ⟨tokens, none⟩) = afterOperand) :
    (marks.foldlM take ⟨tokens, none⟩).bind flush =
      ((lexemes afterOperand marks).mapM Lexeme.read).map fun read => ⟨tokens ++ read, none⟩ := by
  fun_induction lexemes afterOperand marks generalizing tokens with
  | case1 afterOperand => simp [Except.bind, flush, Except.map, pure, Except.pure]
  | case2 afterOperand first rest begins ih =>
    obtain ⟨writtenFirst, writtenRest⟩ := List.forall_mem_cons.1 written
    have writtenTail : ∀ mark ∈ rest.dropWhile numericMark, Written mark := by
      intro mark member
      exact writtenRest mark ((List.dropWhile_suffix _).mem member)
    have writtenDigits : ∀ mark ∈ rest.takeWhile numericMark, Written mark := by
      intro mark member
      exact writtenRest mark ((List.takeWhile_prefix _).mem member)
    have numeric : ∀ mark ∈ rest.takeWhile numericMark, numericMark mark = true :=
      List.all_eq_true.1 List.all_takeWhile
    have ends := stops_dropWhile numericMark rest
    have parts : rest = rest.takeWhile numericMark ++ rest.dropWhile numericMark :=
      List.takeWhile_append_dropWhile.symm
    rw [← context] at begins
    -- The literal is taken as a whole, and behind it the scan is where it was before.
    conv => lhs; rw [parts]
    rw [foldlM_take_number writtenFirst writtenDigits writtenTail numeric ends begins,
      map_mapM_cons, Lexeme.read]
    cases read : Lexeme.readNumber first (rest.takeWhile numericMark) with
    | error failure => rfl
    | ok number =>
      have next := expectsOperand_push_number tokens read
      have tail := ih writtenTail (congrArg Bool.not next)
      change (List.foldlM take ⟨tokens.push number, none⟩ _).bind flush = Except.map _ _
      rw [tail]
      simp only [← Array.appendList_cons]
  | case3 afterOperand mark rest single ih =>
    obtain ⟨writtenMark, writtenRest⟩ := List.forall_mem_cons.1 written
    rw [← context] at single
    rw [List.foldlM_cons, take_symbol writtenMark (by simpa using single), map_mapM_cons]
    cases read : (Lexeme.symbol mark).read with
    | error failure => rfl
    | ok token =>
      have next := expectsOperand_push_symbol tokens read
      have tail := ih writtenRest (by rw [next, Bool.not_not])
      change (List.foldlM take ⟨tokens.push token, none⟩ _).bind flush = Except.map _ _
      rw [tail]
      simp only [← Array.appendList_cons]

end Scan

theorem Scanner.tokenize_eq (scanner : Scanner) :
    scanner.tokenize = (validate scanner.source).bind fun _ =>
      (lexemes false (Text.marks scanner.offset scanner.rest)).mapM Lexeme.read := by
  have written : ∀ mark ∈ Text.marks scanner.offset scanner.rest, Written mark :=
    fun _ member => written_of_mem_marks member
  have context : (!Scan.expectsOperand ⟨#[], none⟩) = false := rfl
  have scanned := Scan.foldlM_take written context
  rw [← Scan.run_eq_foldlM] at scanned
  unfold tokenize
  cases validate scanner.source with
  | error failure => rfl
  | ok _ =>
    change ((Scan.empty.run scanner.offset scanner.rest).bind fun scan =>
      scan.flush.bind fun finished => .ok finished.tokens.toList) =
        (lexemes false (Text.marks scanner.offset scanner.rest)).mapM Lexeme.read
    have regrouped (scanned : Except ParseError Scan) :
        (scanned.bind fun scan => scan.flush.bind fun finished => .ok finished.tokens.toList) =
          (scanned.bind Scan.flush).map fun finished => finished.tokens.toList := by
      cases scanned with
      | error failure => rfl
      | ok scan => cases scan.flush <;> rfl
    rw [regrouped, Scan.empty, scanned]
    cases (lexemes false (Text.marks scanner.offset scanner.rest)).mapM Lexeme.read with
    | error failure => rfl
    | ok tokens => simp [Except.map]

def foreignMark (mark : Located Char) : Bool := !isAccepted mark.elem

def validateMarks (marks : List (Located Char)) : Except ParseError Unit :=
  match marks.find? foreignMark with
  | none => .ok ()
  | some mark => .error (.invalidCharacter mark.elem mark.span)

theorem findFrom?_isForeign (offset : Nat) (source : List Char) :
    Text.findFrom? isForeign offset source =
      ((Text.marks offset source).find? foreignMark).map fun mark => (mark.span.start, mark.elem) := by
  induction source generalizing offset with
  | nil => rfl
  | cons c rest ih =>
    cases blank : isBlank c with
    | true =>
      rw [Text.marks_cons_blank blank, ← ih, Text.findFrom?, isForeign, blank]
      rfl
    | false =>
      rw [Text.marks_cons_mark blank, Text.findFrom?, isForeign, blank, List.find?_cons, foreignMark]
      cases isAccepted c with
      | true => exact ih _
      | false => rfl

theorem validate_eq (source : List Char) : validate source = validateMarks (Text.marks 0 source) := by
  rw [validate, validateMarks, findFrom?_isForeign]
  cases found : (Text.marks 0 source).find? foreignMark with
  | none => rfl
  | some mark =>
    have sized : mark.span.stop = mark.span.start + mark.elem.utf8Size :=
      Text.sized_of_mem_marks (List.mem_of_find?_eq_some found)
    simp only [Option.map_some]
    rw [← sized]

def tokenizeMarks (marks : List (Located Char)) : Except ParseError Tokens :=
  (validateMarks marks).bind fun _ => (lexemes false marks).mapM Lexeme.read

theorem tokenize_eq (expression : String) :
    tokenize expression = tokenizeMarks (Text.marks 0 expression.toList) := by
  rw [tokenize, Scanner.tokenize_eq, Scanner.ofString, validate_eq]
  rfl

theorem validateMarks_eq_ok {marks : List (Located Char)} :
    validateMarks marks = .ok () ↔ ∀ mark ∈ marks, isAccepted mark.elem = true := by
  have none : marks.find? foreignMark = none ↔ ∀ mark ∈ marks, isAccepted mark.elem = true := by
    rw [List.find?_eq_none]
    simp [foreignMark]
  rw [← none, validateMarks]
  cases marks.find? foreignMark <;> simp

theorem validateMarks_eq_error {marks : List (Located Char)} {error : ParseError}
    (failed : validateMarks marks = .error error) :
    ∃ mark ∈ marks, error = .invalidCharacter mark.elem mark.span := by
  rw [validateMarks] at failed
  split at failed
  · cases failed
  · next mark found =>
    injection failed with failed
    exact ⟨mark, List.mem_of_find?_eq_some found, failed.symm⟩

theorem tokenizeMarks_eq_ok {marks : List (Located Char)} {tokens : Tokens} :
    tokenizeMarks marks = .ok tokens ↔ (∀ mark ∈ marks, isAccepted mark.elem = true) ∧
      (lexemes false marks).mapM Lexeme.read = .ok tokens := by
  rw [tokenizeMarks, bind_eq_ok, ← validateMarks_eq_ok]
  constructor
  · rintro ⟨_, valid, read⟩
    exact ⟨valid, read⟩
  · rintro ⟨valid, read⟩
    exact ⟨(), valid, read⟩

theorem mapM_read_of_tokenize {expression : String} {tokens : Tokens}
    (read : tokenize expression = .ok tokens) :
    (lexemes false (Text.marks 0 expression.toList)).mapM Lexeme.read = .ok tokens := by
  rw [tokenize_eq] at read
  exact (tokenizeMarks_eq_ok.1 read).2

theorem Paren.ofChar?_of_begins {afterOperand : Bool} {mark : Located Char}
    (begins : beginsNumber afterOperand mark = true) : Paren.ofChar? mark.elem = none := by
  unfold Paren.ofChar?
  split
  · next opening => simp [beginsNumber, numericMark, isNumeric, opening] at begins
  · next closing => simp [beginsNumber, numericMark, isNumeric, closing] at begins
  · rfl

theorem Token.paren?_of_ofChar? {c : Char} {token : Token} (made : Token.ofChar? c = some token) :
    token.paren? = Paren.ofChar? c := by
  rcases Token.ofChar?_eq_some made with ⟨side, rfl, rfl⟩ | ⟨known, rfl⟩
  · cases side <;> rfl
  · rcases Operator.sym_of_isOperator known with rfl | rfl | rfl | rfl | rfl <;> rfl

theorem parens_of_lexemes {afterOperand : Bool} {marks : List (Located Char)} {tokens : Tokens}
    (read : (lexemes afterOperand marks).mapM Lexeme.read = .ok tokens) :
    parens tokens = Text.parens (chars marks) := by
  fun_induction lexemes afterOperand marks generalizing tokens with
  | case1 afterOperand =>
    injection read with read
    rw [← read]
    rfl
  | case2 afterOperand first rest begins ih =>
    obtain ⟨number, others, readFirst, readRest, rfl⟩ := mapM_cons_eq_ok read
    obtain ⟨value, rfl⟩ := Lexeme.exists_num_of_readNumber readFirst
    have digits : Text.parens (chars (first :: rest.takeWhile numericMark)) = [] := by
      rw [Text.parens, List.filterMap_eq_nil_iff]
      intro c member
      obtain ⟨mark, inside, rfl⟩ := List.mem_map.1 member
      rcases List.mem_cons.1 inside with rfl | later
      · exact Paren.ofChar?_of_begins begins
      · have numeric := List.all_eq_true.1 List.all_takeWhile mark later
        exact Paren.ofChar?_of_begins (Bool.or_eq_true_iff.2 (.inl numeric) :
          beginsNumber true mark = true)
    have parts : first :: rest =
        first :: rest.takeWhile numericMark ++ rest.dropWhile numericMark := by
      rw [List.cons_append, List.takeWhile_append_dropWhile]
    rw [parts, Text.chars_append, Text.parens_append, digits, ← ih readRest]
    rfl
  | case3 afterOperand mark rest single ih =>
    obtain ⟨token, others, readMark, readRest, rfl⟩ := mapM_cons_eq_ok read
    have side := Token.paren?_of_ofChar? (Lexeme.read_symbol_eq_ok readMark).2
    have tail := ih readRest
    simp only [parens, Text.parens, Text.chars_cons, List.filterMap_cons, side] at tail ⊢
    rw [tail]

theorem Text.parens_marks (offset : Nat) (source : List Char) :
    Text.parens (chars (Text.marks offset source)) = Text.parens source := by
  rw [Text.chars_marks, Text.parens, Text.parens, List.filterMap_filter]
  congr 1
  funext c
  cases blank : isBlank c with
  | false => rfl
  | true =>
    unfold isBlank at blank
    split at blank <;> first | rfl | cases blank

end Reckon
