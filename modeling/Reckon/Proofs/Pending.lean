import Reckon.Proofs.Coverage
import Reckon.Proofs.Resumption

/-! Literals while they are being read. Main statement: at every place of a text the pending literal spells
what stands in its span, so that no character of a valid text is refused but a minus or a point. -/

namespace Reckon

open Text (bare byteLength chars slice)

/-- What a literal tells of the text that it is read from, however much of it has been read. -/
structure Literal.Tells (source : String) (literal : Literal) : Prop where
  nonempty : literal.text.toList ≠ []
  body : ∀ c ∈ withoutSign literal.text.toList, c.isDigit = true ∨ c = '.'
  onePoint : literal.text.toList.count '.' ≤ 1
  hasDigit_iff : literal.hasDigit = true ↔ ∃ c ∈ literal.text.toList, c.isDigit = true
  hasDot_iff : literal.hasDot = true ↔ '.' ∈ literal.text.toList
  spelled : bare (slice source literal.span) = literal.text.toList
  forward : literal.span.start < literal.span.stop
  inBounds : literal.span.stop ≤ source.utf8ByteSize

/-- A scanner that has read the first part of what was before it. -/
structure Scanner.Reaches (scanner : Scanner) (read rest : List Char) (scan : Scan) : Prop where
  parts : scanner.rest = read ++ rest
  run : Scan.empty.run scanner.offset read = .ok scan

/-! ## The marks of a pending literal -/

inductive Literal.Gathers (marks : List (Located Char)) : Literal → Prop
  | intro {before more : List (Located Char)} {first : Located Char}
      (parts : marks = before ++ first :: more) (begins : beginsNumber false first = true)
      (numeric : ∀ mark ∈ more, numericMark mark = true)
      (few : (Lexeme.points first more).length ≤ 1) : Gathers marks (.ofMarks first more)

namespace Scan

variable {tokens : Array (Located Token)} {marks : List (Located Char)} {mark : Located Char}
  {scan after : Scan}

theorem pending_of_take_first (written : Written mark) (taken : take ⟨tokens, none⟩ mark = .ok after) :
    ∀ literal ∈ after.pending, beginsNumber false mark = true ∧ literal = .ofMarks mark [] := by
  intro literal pending
  cases begins : beginsNumber (!expectsOperand ⟨tokens, none⟩) mark with
  | true =>
    rw [take_first written begins] at taken
    cases taken
    cases pending
    exact ⟨beginsNumber_false begins, rfl⟩
  | false =>
    rw [take_symbol written begins] at taken
    cases read : (Lexeme.symbol mark).read with
    | error failure =>
      rw [read] at taken
      cases taken
    | ok token =>
      rw [read] at taken
      cases taken
      cases pending

theorem gathers_take (written : Written mark) (taken : take scan mark = .ok after)
    (gathers : ∀ literal ∈ scan.pending, literal.Gathers marks) :
    ∀ literal ∈ after.pending, literal.Gathers (marks ++ [mark]) := by
  -- Also where a literal ends the mark is looked at as if nothing had been pending.
  have begun {tokens : Array (Located Token)} (taken : take ⟨tokens, none⟩ mark = .ok after) :
      ∀ literal ∈ after.pending, literal.Gathers (marks ++ [mark]) := by
    intro literal pending
    obtain ⟨begins, rfl⟩ := pending_of_take_first written taken literal pending
    exact .intro rfl begins nofun (List.length_filter_le _ _)
  obtain ⟨tokens, pending⟩ := scan
  cases pending with
  | none => exact begun taken
  | some literal =>
    obtain ⟨rfl, begins, numeric, few⟩ := gathers literal rfl
    rename_i before more first
    cases single : numericMark mark with
    | false =>
      rw [take_behind written single] at taken
      obtain ⟨number, _, taken⟩ := bind_eq_ok.1 taken
      exact begun taken
    | true =>
      have noOther : mark.elem = '.' → Lexeme.points first more = [] := by
        intro point
        by_contra other
        rw [take_second_point written point other] at taken
        cases taken
      rw [take_more written single noOther] at taken
      cases taken
      intro literal pending
      cases pending
      refine .intro (List.append_assoc _ _ _) begins ?_ (Lexeme.length_points_concat_le few noOther)
      exact List.forall_mem_append.2 ⟨numeric, by simpa using single⟩

/-- What is pending behind some marks, which are known to be written as far as they have been read. -/
def Pends (marks : List (Located Char)) (scan : Scan) : Prop :=
  (∀ mark ∈ marks, Written mark) → ∀ literal ∈ scan.pending, literal.Gathers marks

theorem foldlM_pends (run : marks.foldlM take .empty = .ok scan) : Pends marks scan := by
  have start : Pends [] .empty := fun _ => nofun
  have step {read : List (Located Char)} {item : Located Char} {earlier later : Scan}
      (known : Pends read earlier) (taken : take earlier item = .ok later) :
      Pends (read ++ [item]) later := by
    intro written
    obtain ⟨before, last⟩ := List.forall_mem_append.1 written
    exact gathers_take (last item List.mem_cons_self) taken (known before)
  exact foldlM_preserves step start run

end Scan

/-! ## What the pending literal tells of the text -/

section Tells

variable {source : String} {first : Located Char} {more : List (Located Char)}

theorem numeric_withoutSign (begins : beginsNumber false first = true)
    (numeric : ∀ mark ∈ more, numericMark mark = true) :
    ∀ c ∈ withoutSign (chars (first :: more)), isNumeric c = true := by
  have behind : ∀ c ∈ chars more, isNumeric c = true := by
    intro c member
    obtain ⟨mark, inside, rfl⟩ := List.mem_map.1 member
    exact numeric mark inside
  by_cases sign : first.elem = '-'
  · rw [Text.chars_cons, sign]
    exact behind
  · rw [Text.chars_cons, withoutSign_of_ne sign]
    refine List.forall_mem_cons.2 ⟨?_, behind⟩
    simpa [beginsNumber, numericMark, sign] using begins

theorem Literal.Gathers.tells {literal : Literal} {before marks behind : List (Located Char)}
    (parts : Text.marks 0 source.toList = before ++ marks ++ behind)
    (gathers : literal.Gathers marks) : literal.Tells source := by
  obtain ⟨rfl, begins, numeric, few⟩ := gathers
  rename_i earlier more first
  have place : Text.marks 0 source.toList = before ++ earlier ++ first :: (more ++ behind) := by
    simp [parts]
  obtain ⟨piece, slices, head, _, kept⟩ := Text.slices_cover place
  have nonempty : piece ≠ [] := by
    rintro rfl
    cases head
  constructor
  case nonempty => simp [ofMarks]
  case body =>
    intro c member
    rw [ofMarks, String.toList_ofList] at member
    simpa [isNumeric] using numeric_withoutSign begins numeric c member
  case onePoint =>
    rw [ofMarks, String.toList_ofList, ← Lexeme.length_points]
    exact few
  case hasDigit_iff => simp [ofMarks]
  case hasDot_iff =>
    rw [ofMarks, String.toList_ofList, List.any_beq', List.contains_iff_mem]
  case spelled =>
    rw [ofMarks, String.toList_ofList, slices.slice_eq nonempty]
    exact kept
  case forward => exact slices.start_lt_stop nonempty
  case inBounds => exact slices.stop_le

theorem Literal.Gathers.exists_value {literal : Literal} {marks : List (Located Char)}
    (gathers : literal.Gathers marks) (digit : literal.hasDigit = true) :
    ∃ value, Decimal.read? literal.text.toList = some value := by
  obtain ⟨_, begins, numeric, few⟩ := gathers
  rw [ofMarks, String.toList_ofList]
  exact Decimal.exists_read?_of_isNumeral (Lexeme.isNumeral_iff.2 ⟨begins, numeric, few, digit⟩)

end Tells

/-! ## Valid texts -/

section Valid

variable {source : List Char} (valid : validate source = .ok ())

include valid

theorem isAccepted_of_validate {c : Char} (member : c ∈ source) (notBlank : isBlank c = false) :
    isAccepted c = true := by
  rw [validate_eq, validateMarks_eq_ok] at valid
  have kept : c ∈ chars (Text.marks 0 source) := by
    rw [Text.chars_marks]
    exact List.mem_filter.2 ⟨member, by simp [notBlank]⟩
  obtain ⟨mark, inside, rfl⟩ := List.mem_map.1 kept
  exact valid mark inside

theorem exists_symbol {c : Char} (member : c ∈ source) (notBlank : isBlank c = false)
    (noDigit : c.isDigit = false) (noPoint : c ≠ '.') (scan : Scan) (offset : Nat) :
    ∃ next, scan.symbol offset c = .ok next := by
  have single : numericMark ⟨c, ⟨offset, offset + c.utf8Size⟩⟩ = false := by
    simp [numericMark, isNumeric, noDigit, noPoint]
  have accepted : isAccepted (Located.mk c ⟨offset, offset + c.utf8Size⟩).elem = true :=
    isAccepted_of_validate valid member notBlank
  obtain ⟨token, reads⟩ := Lexeme.exists_reads_symbol accepted single
  have made := (Lexeme.read_symbol_eq_ok reads.read_eq).2
  simp only [Scan.symbol, made]
  split
  · exact ⟨_, rfl⟩
  · exact ⟨_, rfl⟩

theorem point_or_minus_of_invalidCharacter {offset : Nat} {rest : List Char} {found : Char} {span : Span}
    (inside : rest.Sublist source)
    (failed : Scanner.tokenize ⟨source, offset, rest⟩ = .error (.invalidCharacter found span)) :
    found = '.' ∨ found = '-' := by
  have accepted : ∀ mark ∈ Text.marks offset rest, isAccepted mark.elem = true := by
    intro mark member
    have written : mark.elem ∈ rest.filter fun c => !isBlank c := by
      rw [← Text.chars_marks offset rest]
      exact List.mem_map_of_mem member
    exact isAccepted_of_validate valid (inside.subset (List.mem_filter.1 written).1)
      (Text.notBlank_of_mem_marks member)
  rw [Scanner.tokenize_eq, valid] at failed
  obtain ⟨front, word, back, parts, _, refused⟩ := (mapM_read_eq_error_iff accepted).1 failed
  cases refused with
  | secondPoint twoPoints => exact .inl rfl
  | @noDigit first more onePoint noDigit =>
    have member : .number first more ∈ lexemes false (Text.marks offset rest) := by
      rw [parts]
      exact List.mem_append_right _ List.mem_cons_self
    have begins := (begins_of_mem_lexemes member).1
    rw [Text.chars_cons, List.any_cons, Bool.or_eq_false_iff] at noDigit
    simpa [beginsNumber, numericMark, isNumeric, noDigit.1] using begins

end Valid

section Reaches

variable {scanner : Scanner} {read rest : List Char} {scan : Scan}

theorem Scanner.Reaches.gathers (reaches : scanner.Reaches read rest scan) :
    ∀ literal ∈ scan.pending, literal.Gathers (Text.marks scanner.offset read) := by
  have run := reaches.run
  rw [Scan.run_eq_foldlM] at run
  exact Scan.foldlM_pends run fun _ member => written_of_mem_marks member

end Reaches

/-- Wherever a scan has come to in a text, of which any part may have been consumed before, the pending literal
tells what stands in its span: it has a first character, and with a digit it spells a number. In a valid
text no character is left that makes nothing, and only a minus or a point is ever refused. -/
theorem pending_literal_tells {source : String} {count : Nat} {scanner : Scanner}
    (advanced : ((Scanner.ofString source).advance count).2 = scanner) :
    (∀ read rest scan, scanner.Reaches read rest scan → ∀ literal ∈ scan.pending,
      literal.Tells source ∧ (∃ first, literal.text.toList.head? = some first) ∧
        (literal.hasDigit = true → ∃ value, Decimal.read? literal.text.toList = some value)) ∧
      (validate source.toList = .ok () →
        (∀ read c rest scan flushed, scanner.Reaches read (c :: rest) scan →
          scan.flush = .ok flushed → isBlank c = false → c.isDigit = false → c ≠ '.' →
            ∃ next, flushed.symbol (scanner.offset + byteLength read) c = .ok next) ∧
          ∀ found span, scanner.tokenize = .error (.invalidCharacter found span) →
            found = '.' ∨ found = '-') := by
  have place : scanner = ⟨source.toList, byteLength (source.toList.take count),
      source.toList.drop count⟩ := by
    rw [← advanced, Scanner.advance_eq]
    simp [Scanner.skip, Scanner.ofString]
  have inside : (source.toList.drop count).Sublist source.toList := List.drop_sublist _ _
  have whole : source.toList = source.toList.take count ++ scanner.rest := by
    rw [place, List.take_append_drop]
  refine ⟨?_, fun valid => ⟨?_, ?_⟩⟩
  · intro read rest scan reaches literal pending
    have gathers := reaches.gathers literal pending
    have parts : Text.marks 0 source.toList = Text.marks 0 (source.toList.take count) ++
        Text.marks scanner.offset read ++ Text.marks (scanner.offset + byteLength read) rest := by
      conv => lhs; rw [whole, reaches.parts]
      rw [Text.marks_append, Text.marks_append, Nat.zero_add, List.append_assoc, place]
    have tells := gathers.tells parts
    obtain ⟨first, others, spelled⟩ := List.exists_cons_of_ne_nil tells.nonempty
    exact ⟨tells, ⟨first, by rw [spelled]; rfl⟩, gathers.exists_value⟩
  · intro read c rest scan flushed reaches _ notBlank noDigit noPoint
    have member : c ∈ source.toList := by
      rw [whole, reaches.parts]
      simp
    exact exists_symbol valid member notBlank noDigit noPoint flushed _
  · intro found span failed
    rw [place] at failed
    exact point_or_minus_of_invalidCharacter valid inside failed

/-- Behind the parenthesis that was consumed a sign is pending with a point and a digit, and a tab among them. The
parenthesis that follows makes a token, and what is refused is the last minus. -/
theorem pending_literal_tells_across_blanks :
    let source := "(2--\t.5 )(-"
    let scanner := ((Scanner.ofString source).advance 1).2
    let read := "2--\t.5 ".toList
    let literal : Literal := ⟨"-.5", ⟨3, 7⟩, true, true⟩
    let tokens : Array (Located Token) := #[⟨.num 2, ⟨1, 2⟩⟩, ⟨.op '-', ⟨2, 3⟩⟩]
    let flushed : Scan := ⟨tokens.push ⟨.num (-0.5), ⟨3, 7⟩⟩, none⟩
    scanner.Reaches read [')', '(', '-'] ⟨tokens, some literal⟩ ∧
      Scan.flush ⟨tokens, some literal⟩ = .ok flushed ∧ validate source.toList = .ok () ∧
        scanner.tokenize = .error (.invalidCharacter '-' ⟨10, 11⟩) ∧ literal.Tells source ∧
          (∃ value, Decimal.read? literal.text.toList = some value) ∧
            (∃ next, flushed.symbol (scanner.offset + byteLength read) ')' = .ok next) ∧
              ('-' = '.' ∨ '-' = '-') := by
  intro source scanner read literal tokens flushed
  have reaches : scanner.Reaches read [')', '(', '-'] ⟨tokens, some literal⟩ := by
    constructor
    · decide +kernel
    · decide +kernel
  have closed : Scan.flush ⟨tokens, some literal⟩ = .ok flushed := by decide +kernel
  have valid : validate source.toList = .ok () := by decide +kernel
  have failed : scanner.tokenize = .error (.invalidCharacter '-' ⟨10, 11⟩) := by decide +kernel
  have advanced : ((Scanner.ofString source).advance 1).2 = scanner := rfl
  obtain ⟨tells, valids⟩ := pending_literal_tells advanced
  obtain ⟨told, _, spells⟩ := tells read _ _ reaches literal rfl
  obtain ⟨makes, refused⟩ := valids valid
  have made := makes read ')' _ _ _ reaches closed rfl rfl (by decide)
  exact ⟨reaches, closed, valid, failed, told, spells rfl, made, refused _ _ failed⟩

end Reckon
