import Reckon.Proofs.Tokenize

/-! Which texts have tokens, which tokens, and what the others are refused for. Main statement: the first
foreign character of a text is blamed before anything else, and of a text without one the lexemes are
read from left to right up to the first literal that spells no number. -/

namespace Reckon

open Text (chars located)

def blanks : List Char := [' ', '\t', '\n', '\r', '\x0B', '\x0C']

def alphabet : List Char := "0123456789+-*/().^".toList

theorem isBlank_iff {c : Char} : isBlank c = true ↔ c ∈ blanks := by
  constructor
  · intro blank
    unfold isBlank at blank
    split at blank
    case h_7 => cases blank
    all_goals decide
  · intro member
    have checked : blanks.all isBlank = true := by decide
    exact List.all_eq_true.1 checked c member

theorem isAccepted_iff {c : Char} : isAccepted c = true ↔ c ∈ alphabet := by
  constructor
  · intro accepted
    simp only [isAccepted, Bool.or_eq_true, beq_iff_eq] at accepted
    rcases accepted with (((digit | rfl) | rfl) | rfl) | known
    · have bounds := Char.isDigit_iff_toNat.1 digit
      have checked : ∀ n ≤ 57, 48 ≤ n → Char.ofNat n ∈ alphabet := by decide
      have listed := checked c.toNat bounds.2 bounds.1
      rw [Char.ofNat_toNat] at listed
      exact listed
    · decide
    · decide
    · decide
    · rcases Operator.sym_of_isOperator known with rfl | rfl | rfl | rfl | rfl <;> decide
  · intro member
    have checked : alphabet.all isAccepted = true := by decide
    exact List.all_eq_true.1 checked c member

namespace Lexeme

/-- A literal spells a number if it has a digit at least, a point at most and a finite value. -/
structure Spells (first : Located Char) (more : List (Located Char)) (value : Float) : Prop where
  digit : (chars (first :: more)).any Char.isDigit = true
  onePoint : (points first more).length ≤ 1
  spelled : Decimal.read? (chars (first :: more)) = some value
  finite : value.isFinite = true

inductive Reads : Lexeme → Located Token → Prop
  | number {first : Located Char} {more : List (Located Char)} {value : Float}
      (spells : Spells first more value) : Reads (.number first more) ⟨.num value, cover first more⟩
  | operator {mark : Located Char} (known : isOperator mark.elem = true) :
      Reads (.symbol mark) ⟨.op mark.elem, mark.span⟩
  | paren {mark : Located Char} {side : Paren} (written : mark.elem = side.char) :
      Reads (.symbol mark) ⟨.paren side, mark.span⟩

/-- Why a literal spells no number: for its second point, else for want of a digit, else for its size. -/
inductive Refused : Lexeme → ParseError → Prop
  | secondPoint {first point second : Located Char} {more others : List (Located Char)}
      (twoPoints : points first more = point :: second :: others) :
      Refused (.number first more) (.invalidCharacter '.' second.span)
  | noDigit {first : Located Char} {more : List (Located Char)}
      (onePoint : (points first more).length ≤ 1)
      (noDigit : (chars (first :: more)).any Char.isDigit = false) :
      Refused (.number first more) (.invalidCharacter first.elem first.span)
  | tooLarge {first : Located Char} {more : List (Located Char)} {value : Float}
      (onePoint : (points first more).length ≤ 1)
      (digit : (chars (first :: more)).any Char.isDigit = true)
      (spelled : Decimal.read? (chars (first :: more)) = some value)
      (infinite : value.isFinite = false) :
      Refused (.number first more) (.numberOutOfRange (cover first more))

variable {word : Lexeme} {token : Located Token} {error : ParseError}

theorem readNumber_of_onePoint {first : Located Char} {more : List (Located Char)}
    (onePoint : (points first more).length ≤ 1) :
    readNumber first more =
      if (chars (first :: more)).any Char.isDigit then
        match Decimal.read? (chars (first :: more)) with
        | none => .error (.invalidCharacter first.elem first.span)
        | some value =>
          if value.isFinite then .ok ⟨.num value, cover first more⟩
          else .error (.numberOutOfRange (cover first more))
      else .error (.invalidCharacter first.elem first.span) := by
  unfold readNumber
  split
  · next point second others two =>
    rw [two] at onePoint
    simp at onePoint
  · rfl

theorem Reads.read_eq (reads : Reads word token) : word.read = .ok token := by
  cases reads with
  | number spells =>
    rw [read, readNumber_of_onePoint spells.onePoint, if_pos spells.digit, spells.spelled]
    simp [spells.finite]
  | operator known => simp [read, Token.ofChar?_of_isOperator known]
  | @paren mark side written =>
    rw [read, written]
    cases side <;> rfl

theorem Refused.read_eq (refused : Refused word error) : word.read = .error error := by
  cases refused with
  | secondPoint twoPoints => rw [read, readNumber, twoPoints]
  | noDigit onePoint noDigit =>
    rw [read, readNumber_of_onePoint onePoint, noDigit]
    rfl
  | tooLarge onePoint digit spelled infinite =>
    rw [read, readNumber_of_onePoint onePoint, if_pos digit, spelled]
    simp [infinite]

theorem exists_reads_number_iff {first : Located Char} {more : List (Located Char)} :
    (∃ token, Reads (.number first more) token) ↔ ∃ value, Spells first more value := by
  constructor
  · rintro ⟨token, ⟨spells⟩⟩
    exact ⟨_, spells⟩
  · rintro ⟨value, spells⟩
    exact ⟨_, .number spells⟩

theorem exists_reads_symbol {mark : Located Char} (accepted : isAccepted mark.elem = true)
    (single : numericMark mark = false) : ∃ token, Reads (.symbol mark) token := by
  simp only [numericMark, isNumeric, Bool.or_eq_false_iff, beq_eq_false_iff_ne] at single
  simp only [isAccepted, single.1, Bool.or_eq_true, beq_iff_eq, Bool.false_eq_true, false_or]
    at accepted
  rcases accepted with ((point | opening) | closing) | known
  · exact absurd point single.2
  · have written : mark.elem = Paren.opening.char := opening
    exact ⟨_, .paren written⟩
  · have written : mark.elem = Paren.closing.char := closing
    exact ⟨_, .paren written⟩
  · exact ⟨_, .operator known⟩

theorem reads_or_refused_number {first : Located Char} {more : List (Located Char)}
    (begins : beginsNumber false first = true) (numeric : ∀ mark ∈ more, numericMark mark = true) :
    (∃ token, Reads (.number first more) token) ∨ ∃ error, Refused (.number first more) error := by
  have ofOnePoint (onePoint : (points first more).length ≤ 1) :
      (∃ token, Reads (.number first more) token) ∨ ∃ error, Refused (.number first more) error := by
    cases digit : (chars (first :: more)).any Char.isDigit with
    | false => exact .inr ⟨_, .noDigit onePoint digit⟩
    | true =>
      obtain ⟨value, spelled⟩ :=
        Decimal.exists_read?_of_isNumeral (isNumeral_iff.2 ⟨begins, numeric, onePoint, digit⟩)
      cases finite : value.isFinite with
      | true => exact .inl ⟨_, .number ⟨digit, onePoint, spelled, finite⟩⟩
      | false => exact .inr ⟨_, .tooLarge onePoint digit spelled finite⟩
  match found : points first more with
  | point :: second :: others => exact .inr ⟨_, .secondPoint found⟩
  | [] => exact ofOnePoint (by simp [found])
  | [_] => exact ofOnePoint (by simp [found])

end Lexeme

theorem single_of_mem_lexemes {afterOperand : Bool} {marks : List (Located Char)}
    {mark : Located Char} (member : .symbol mark ∈ lexemes afterOperand marks) :
    numericMark mark = false := by
  fun_induction lexemes afterOperand marks with
  | case1 afterOperand => cases member
  | case2 afterOperand first rest begins ih =>
    rcases List.mem_cons.1 member with same | later
    · cases same
    · exact ih later
  | case3 afterOperand first rest single ih =>
    rcases List.mem_cons.1 member with same | later
    · injection same with same
      rw [same]
      simp only [beginsNumber, Bool.or_eq_true, not_or, Bool.not_eq_true] at single
      exact single.1
    · exact ih later

section Accepted

variable {marks : List (Located Char)} (accepted : ∀ mark ∈ marks, isAccepted mark.elem = true)
  {word : Lexeme} (member : word ∈ lexemes false marks)

include accepted member

theorem reads_or_refused : (∃ token, word.Reads token) ∨ ∃ error, word.Refused error := by
  cases word with
  | number first more =>
    obtain ⟨begins, numeric⟩ := begins_of_mem_lexemes member
    exact Lexeme.reads_or_refused_number begins numeric
  | symbol mark =>
    have inside : mark ∈ marks := mem_of_mem_lexemes member List.mem_cons_self
    exact .inl (Lexeme.exists_reads_symbol (accepted mark inside) (single_of_mem_lexemes member))

theorem read_eq_ok_iff {token : Located Token} : word.read = .ok token ↔ word.Reads token := by
  refine ⟨?_, Lexeme.Reads.read_eq⟩
  intro read
  rcases reads_or_refused accepted member with ⟨other, reads⟩ | ⟨error, refused⟩
  · cases read.symm.trans reads.read_eq
    exact reads
  · cases read.symm.trans refused.read_eq

theorem read_eq_error_iff {error : ParseError} : word.read = .error error ↔ word.Refused error := by
  refine ⟨?_, Lexeme.Refused.read_eq⟩
  intro unread
  rcases reads_or_refused accepted member with ⟨token, reads⟩ | ⟨other, refused⟩
  · cases unread.symm.trans reads.read_eq
  · cases unread.symm.trans refused.read_eq
    exact refused

end Accepted

theorem find?_foreign (source : String) :
    ((located 0 source.toList).find? fun mark => mark.elem ∉ blanks ∧ mark.elem ∉ alphabet) =
      (Text.marks 0 source.toList).find? foreignMark := by
  rw [Text.marks, List.find?_filter]
  congr 1
  funext mark
  have blank : mark.elem ∈ blanks ↔ isBlank mark.elem = true := isBlank_iff.symm
  have held : mark.elem ∈ alphabet ↔ isAccepted mark.elem = true := isAccepted_iff.symm
  simp [blank, held, foreignMark]

theorem mapM_read_eq_ok_iff {marks : List (Located Char)}
    (accepted : ∀ mark ∈ marks, isAccepted mark.elem = true) {tokens : Tokens} :
    (lexemes false marks).mapM Lexeme.read = .ok tokens ↔
      List.Forall₂ Lexeme.Reads (lexemes false marks) tokens := by
  rw [mapM_eq_ok_iff]
  constructor
  · intro read
    have members : ∀ word ∈ lexemes false marks, word ∈ lexemes false marks := fun _ member => member
    refine ((List.forall₂_and_left _ _).2 ⟨members, read⟩).imp ?_
    rintro word token ⟨member, read⟩
    exact (read_eq_ok_iff accepted member).1 read
  · exact List.Forall₂.imp fun word token reads => reads.read_eq

theorem exists_mapM_read_iff {marks : List (Located Char)}
    (accepted : ∀ mark ∈ marks, isAccepted mark.elem = true) :
    (∃ tokens, (lexemes false marks).mapM Lexeme.read = .ok tokens) ↔
      ∀ first more, .number first more ∈ lexemes false marks →
        ∃ value, Lexeme.Spells first more value := by
  rw [exists_mapM_eq_ok_iff]
  constructor
  · intro read first more member
    obtain ⟨token, read⟩ := read _ member
    exact Lexeme.exists_reads_number_iff.1 ⟨token, (read_eq_ok_iff accepted member).1 read⟩
  · intro spell word member
    cases word with
    | number first more =>
      obtain ⟨token, reads⟩ := Lexeme.exists_reads_number_iff.2 (spell first more member)
      exact ⟨token, reads.read_eq⟩
    | symbol mark =>
      have inside : mark ∈ marks := mem_of_mem_lexemes member List.mem_cons_self
      obtain ⟨token, reads⟩ :=
        Lexeme.exists_reads_symbol (accepted mark inside) (single_of_mem_lexemes member)
      exact ⟨token, reads.read_eq⟩

theorem mapM_read_eq_error_iff {marks : List (Located Char)}
    (accepted : ∀ mark ∈ marks, isAccepted mark.elem = true) {error : ParseError} :
    (lexemes false marks).mapM Lexeme.read = .error error ↔
      ∃ front word back, lexemes false marks = front ++ word :: back ∧
        (∀ good ∈ front, ∃ token, good.Reads token) ∧ word.Refused error := by
  rw [mapM_eq_error_iff]
  constructor
  · rintro ⟨front, word, back, parts, read, unread⟩
    have inside : ∀ good ∈ front ++ word :: back, good ∈ lexemes false marks :=
      fun _ member => parts ▸ member
    obtain ⟨frontInside, behindInside⟩ := List.forall_mem_append.1 inside
    have wordInside := behindInside word List.mem_cons_self
    refine ⟨front, word, back, parts, ?_, (read_eq_error_iff accepted wordInside).1 unread⟩
    intro good member
    obtain ⟨token, read⟩ := read good member
    exact ⟨token, (read_eq_ok_iff accepted (frontInside good member)).1 read⟩
  · rintro ⟨front, word, back, parts, reads, refused⟩
    refine ⟨front, word, back, parts, ?_, refused.read_eq⟩
    intro good member
    obtain ⟨token, reads⟩ := reads good member
    exact ⟨token, reads.read_eq⟩

/-- Blanks and the characters of expressions are those listed. The first foreign character of a text is
blamed before anything else. A text without one is cut into lexemes, which are its tokens if every literal
spells a finite number, and else the first literal that spells none is blamed. -/
theorem tokenize_lexemes (source : String) :
    (∀ c, isBlank c = true ↔ c ∈ blanks) ∧ (∀ c, isAccepted c = true ↔ c ∈ alphabet) ∧
      match (located 0 source.toList).find? fun mark =>
        mark.elem ∉ blanks ∧ mark.elem ∉ alphabet with
      | some mark => tokenize source = .error (.invalidCharacter mark.elem mark.span)
      | none =>
        let words := lexemes false (Text.marks 0 source.toList)
        (∀ tokens, tokenize source = .ok tokens ↔ List.Forall₂ Lexeme.Reads words tokens) ∧
          ((∃ tokens, tokenize source = .ok tokens) ↔
            ∀ first more, .number first more ∈ words → ∃ value, Lexeme.Spells first more value) ∧
          ∀ error, tokenize source = .error error ↔
            ∃ front word back, words = front ++ word :: back ∧
              (∀ good ∈ front, ∃ token, good.Reads token) ∧ word.Refused error := by
  refine ⟨fun _ => isBlank_iff, fun _ => isAccepted_iff, ?_⟩
  rw [find?_foreign, tokenize_eq, tokenizeMarks, validateMarks]
  cases found : (Text.marks 0 source.toList).find? foreignMark with
  | some mark => rfl
  | none =>
    have accepted : ∀ mark ∈ Text.marks 0 source.toList, isAccepted mark.elem = true := by
      simpa [foreignMark] using List.find?_eq_none.1 found
    exact ⟨fun _ => mapM_read_eq_ok_iff accepted, exists_mapM_read_iff accepted,
      fun _ => mapM_read_eq_error_iff accepted⟩

/-- Each of the three minus signs is what stands before it makes of it, and the second point of the last
literal is blamed although a tab stands between the digits. -/
theorem tokenize_lexemes_second_point :
    let source := "(-.5)-- 1.\t2.3"
    tokenize source = .error (.invalidCharacter '.' ⟨12, 13⟩) ∧
      ∃ front word back, lexemes false (Text.marks 0 source.toList) = front ++ word :: back ∧
        (∀ good ∈ front, ∃ token, good.Reads token) ∧
          word.Refused (.invalidCharacter '.' ⟨12, 13⟩) := by
  intro source
  have unread : tokenize source = .error (.invalidCharacter '.' ⟨12, 13⟩) := by decide +kernel
  have noForeign : ((located 0 source.toList).find? fun mark =>
      mark.elem ∉ blanks ∧ mark.elem ∉ alphabet) = none := by decide +kernel
  obtain ⟨_, _, cut⟩ := tokenize_lexemes source
  rw [noForeign] at cut
  exact ⟨unread, (cut.2.2 _).1 unread⟩

end Reckon
