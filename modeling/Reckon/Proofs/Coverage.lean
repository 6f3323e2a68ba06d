import Mathlib.Data.List.Chain
import Reckon.Proofs.Blanks
import Reckon.Proofs.Lexical
import Reckon.Proofs.Order
import Reckon.Proofs.Seams

/-! What the tokens of a text tell about it. Main statement: they stand apart in the order of the text, spell
what stands at their places and leave out nothing but blanks, so that what they spell has them again. -/

namespace Reckon

open Text (Slices chars located withoutBlanks)

namespace Text

def slice (expression : String) (span : Span) : List Char :=
  (String.Pos.Raw.extract expression ⟨span.start⟩ ⟨span.stop⟩).toList

def bare (piece : List Char) : List Char := piece.filter fun c => !isBlank c

theorem Slices.slice_eq {expression : String} {span : Span} {piece : List Char}
    (slices : Slices expression span piece) (nonempty : piece ≠ []) :
    slice expression span = piece := by
  rw [slice, slices.extract_eq nonempty, String.toList_ofList]

end Text

open Text (bare slice)

/-- What a token is spelled with. Within a number there may be blanks. -/
def Token.Spelled (piece : List Char) : Token → Prop
  | num value => isNumeral (bare piece) = true ∧ Decimal.read? (bare piece) = some value ∧
      value.isFinite = true
  | op sym => piece = [sym] ∧ isOperator sym = true
  | paren side => piece = [side.char]

/-- Tokens that tell a text but for its blanks. -/
structure Retells (source : String) (tokens : Tokens) : Prop where
  nonempty : ∀ token ∈ tokens, token.span.start < token.span.stop
  inBounds : ∀ token ∈ tokens, token.span.stop ≤ source.utf8ByteSize
  boundaries : ∀ token ∈ tokens, (⟨token.span.start⟩ : String.Pos.Raw).IsValid source ∧
    (⟨token.span.stop⟩ : String.Pos.Raw).IsValid source
  apart : tokens.Pairwise Located.Precedes
  covered : ∀ mark ∈ located 0 source.toList, mark.elem ∈ blanks ∨
    ∃ token ∈ tokens, token.span.start ≤ mark.span.start ∧ mark.span.stop ≤ token.span.stop
  spelled : ∀ token ∈ tokens, token.elem.Spelled (slice source token.span)
  numbersApart : tokens.IsChain fun first second =>
    first.elem.isNum = true → second.elem.isNum = false
  operandBeforeMinus : ∀ before span behind, tokens = before ++ ⟨.op '-', span⟩ :: behind →
    ∃ front last, before = front ++ [last] ∧ last.elem.endsOperand = true
  whole : (tokens.flatMap fun token => bare (slice source token.span)) = bare source.toList

theorem cover_bounds {first : Located Char} {more : List (Located Char)}
    (ordered : (first :: more).Pairwise Located.Precedes)
    (forward : ∀ mark ∈ first :: more, mark.span.start < mark.span.stop) :
    ∀ mark ∈ first :: more,
      (cover first more).start ≤ mark.span.start ∧ mark.span.stop ≤ (cover first more).stop := by
  induction more generalizing first with
  | nil =>
    intro mark member
    cases List.mem_singleton.1 member
    exact ⟨Nat.le_refl _, Nat.le_refl _⟩
  | cons next more ih =>
    obtain ⟨before, later⟩ := List.pairwise_cons.1 ordered
    obtain ⟨firstForward, laterForward⟩ := List.forall_mem_cons.1 forward
    have bounds := ih later laterForward
    have stop : (cover first (next :: more)).stop = (cover next more).stop := by
      rw [cover, cover, List.getLastD_cons]
    have apart : first.span.stop ≤ next.span.start := before next List.mem_cons_self
    intro mark member
    rw [stop]
    rcases List.mem_cons.1 member with rfl | inside
    · have nextBounds := bounds next List.mem_cons_self
      have nextForward := laterForward next List.mem_cons_self
      exact ⟨Nat.le_refl _, by omega⟩
    · have startBefore : first.span.stop ≤ mark.span.start := before mark inside
      exact ⟨Nat.le_trans (Nat.le_of_lt firstForward) startBefore, (bounds mark inside).2⟩

section Lexemes

variable {afterOperand : Bool} {marks : List (Located Char)} {tokens : Tokens}

theorem Lexeme.isNum_of_symbol {mark : Located Char} {token : Located Token}
    (read : (symbol mark).read = .ok token) : token.elem.isNum = false := by
  rcases read_symbol_cases read with ⟨side, _, rfl⟩ | ⟨_, rfl⟩ <;> rfl

theorem head_of_ends (ends : ∀ mark ∈ marks.head?, numericMark mark = false)
    (read : (lexemes true marks).mapM Lexeme.read = .ok tokens) :
    ∀ token ∈ tokens.head?, token.elem.isNum = false := by
  cases marks with
  | nil =>
    rw [lexemes_nil] at read
    cases read
    exact nofun
  | cons mark rest =>
    have single : beginsNumber true mark = false := by simp [beginsNumber, ends mark rfl]
    rw [lexemes_symbol single] at read
    obtain ⟨token, others, readMark, _, rfl⟩ := mapM_cons_eq_ok read
    intro found head
    cases head
    exact Lexeme.isNum_of_symbol readMark

theorem numbersApart_of_lexemes (read : (lexemes afterOperand marks).mapM Lexeme.read = .ok tokens) :
    tokens.IsChain fun first second => first.elem.isNum = true → second.elem.isNum = false := by
  fun_induction lexemes afterOperand marks generalizing tokens with
  | case1 afterOperand =>
    cases read
    exact .nil
  | case2 afterOperand first rest begins ih =>
    obtain ⟨number, others, _, readRest, rfl⟩ := mapM_cons_eq_ok read
    refine (ih readRest).cons ?_
    intro second head _
    exact head_of_ends (stops_dropWhile numericMark rest) readRest second head
  | case3 afterOperand mark rest single ih =>
    obtain ⟨token, others, readMark, readRest, rfl⟩ := mapM_cons_eq_ok read
    refine (ih readRest).cons ?_
    intro second _ number
    rw [Lexeme.isNum_of_symbol readMark] at number
    cases number

theorem operandBeforeMinus_of_lexemes
    (read : (lexemes afterOperand marks).mapM Lexeme.read = .ok tokens) {before behind : Tokens}
    {span : Span} (parts : tokens = before ++ ⟨.op '-', span⟩ :: behind) :
    (before = [] ∧ afterOperand = true) ∨
      ∃ front last, before = front ++ [last] ∧ last.elem.endsOperand = true := by
  fun_induction lexemes afterOperand marks generalizing tokens before with
  | case1 afterOperand =>
    cases read
    cases before <;> cases parts
  | case2 afterOperand first rest begins ih =>
    obtain ⟨number, others, readFirst, readRest, rfl⟩ := mapM_cons_eq_ok read
    obtain ⟨value, rfl⟩ := Lexeme.exists_num_of_readNumber readFirst
    cases before with
    | nil => cases parts
    | cons head before =>
      injection parts with same parts
      right
      rcases ih readRest parts with ⟨rfl, _⟩ | ⟨front, last, rfl, ends⟩
      · rw [← same]
        exact ⟨[], _, rfl, rfl⟩
      · exact ⟨head :: front, last, rfl, ends⟩
  | case3 afterOperand mark rest single ih =>
    obtain ⟨token, others, readMark, readRest, rfl⟩ := mapM_cons_eq_ok read
    cases before with
    | nil =>
      injection parts with same _
      -- Not read as the beginning of a literal, the minus has an operand before it.
      have minus : mark.elem = '-' := by
        rcases Lexeme.read_symbol_cases readMark with ⟨side, _, rfl⟩ | ⟨_, rfl⟩
        · cases same
        · exact Token.op.inj (congrArg Located.elem same)
      have single : ¬(numericMark mark || !afterOperand) = true := by
        simpa [beginsNumber, minus] using single
      left
      simp only [Bool.or_eq_true, not_or, Bool.not_eq_true', Bool.not_eq_false] at single
      exact ⟨rfl, single.2⟩
    | cons head before =>
      injection parts with same parts
      right
      rcases ih readRest parts with ⟨rfl, closes⟩ | ⟨front, last, rfl, ends⟩
      · rw [← same]
        refine ⟨[], token, rfl, ?_⟩
        rw [Lexeme.endsOperand_of_read readMark]
        exact closes
      · exact ⟨head :: front, last, rfl, ends⟩

end Lexemes

section Source

variable {source : String} {tokens : Tokens}

theorem bare_mark {mark : Located Char} (member : mark ∈ Text.marks 0 source.toList) :
    bare [mark.elem] = [mark.elem] := by
  rw [bare, List.filter_cons_of_pos (by simp [Text.notBlank_of_mem_marks member])]
  rfl

theorem exists_piece_of_read (accepted : ∀ mark ∈ Text.marks 0 source.toList, isAccepted mark.elem = true)
    {word : Lexeme} {token : Located Token}
    (member : word ∈ lexemes false (Text.marks 0 source.toList)) (read : word.read = .ok token) :
    ∃ piece, piece ≠ [] ∧ Slices source token.span piece ∧ bare piece = chars word.marks ∧
      token.elem.Spelled piece := by
  have inside {mark : Located Char} (within : mark ∈ word.marks) :
      mark ∈ Text.marks 0 source.toList := mem_of_mem_lexemes member within
  cases (read_eq_ok_iff accepted member).1 read with
  | @number first more value spells =>
    obtain ⟨piece, slices, head, _, kept⟩ := Text.slices_literal member
    refine ⟨piece, ?_, slices, kept, ?_⟩
    · rintro rfl
      cases head
    · have spelled : Decimal.read? (bare piece) = some value := by
        rw [bare, kept]
        exact spells.spelled
      exact ⟨Decimal.isNumeral_of_read? spelled, spelled, spells.finite⟩
  | @operator mark known =>
    have within := inside List.mem_cons_self
    exact ⟨[mark.elem], List.cons_ne_nil _ _, Text.slices_of_mem_marks within, bare_mark within, rfl, known⟩
  | @paren mark side written =>
    have within := inside List.mem_cons_self
    refine ⟨[mark.elem], List.cons_ne_nil _ _, Text.slices_of_mem_marks within, bare_mark within, ?_⟩
    rw [Token.Spelled, written]

theorem bounds_of_read {word : Lexeme} {token : Located Token}
    (member : word ∈ lexemes false (Text.marks 0 source.toList)) (read : word.read = .ok token) :
    ∀ mark ∈ word.marks,
      token.span.start ≤ mark.span.start ∧ mark.span.stop ≤ token.span.stop := by
  cases word with
  | number first more =>
    obtain ⟨value, rfl⟩ := Lexeme.exists_num_of_readNumber read
    have ordered := Text.pairwise_marks 0 source.toList
    rw [← flatMap_lexemes false (Text.marks 0 source.toList), List.pairwise_flatMap] at ordered
    refine cover_bounds (ordered.1 _ member) ?_
    intro mark within
    have written := mem_of_mem_lexemes member within
    exact (Text.bounds_of_mem_located (List.mem_filter.1 written).1).2
  | symbol mark =>
    intro other within
    cases List.mem_singleton.1 within
    rw [(Lexeme.read_symbol_eq_ok read).1]
    exact ⟨Nat.le_refl _, Nat.le_refl _⟩

theorem blank_or_covered (read : tokenize source = .ok tokens) {mark : Located Char}
    (member : mark ∈ located 0 source.toList) :
    mark.elem ∈ blanks ∨
      ∃ token ∈ tokens, token.span.start ≤ mark.span.start ∧ mark.span.stop ≤ token.span.stop := by
  cases blank : isBlank mark.elem with
  | true => exact .inl (isBlank_iff.1 blank)
  | false =>
    have written : mark ∈ Text.marks 0 source.toList :=
      List.mem_filter.2 ⟨member, by simp [blank]⟩
    rw [← flatMap_lexemes false (Text.marks 0 source.toList)] at written
    obtain ⟨word, wordMember, within⟩ := List.mem_flatMap.1 written
    obtain ⟨token, inside, wordRead⟩ := exists_mem_of_mapM (mapM_read_of_tokenize read) wordMember
    exact .inr ⟨token, inside, bounds_of_read wordMember wordRead mark within⟩

theorem retells_of_tokenize (read : tokenize source = .ok tokens) : Retells source tokens := by
  obtain ⟨accepted, wordsRead⟩ := tokenizes_iff.1 read
  have pieces {token : Located Token} (member : token ∈ tokens) :
      ∃ piece, piece ≠ [] ∧ Slices source token.span piece ∧ token.elem.Spelled piece := by
    obtain ⟨word, inside, wordRead⟩ := mem_of_mapM wordsRead member
    obtain ⟨piece, nonempty, slices, _, spelled⟩ := exists_piece_of_read accepted inside wordRead
    exact ⟨piece, nonempty, slices, spelled⟩
  constructor
  case nonempty =>
    intro token member
    obtain ⟨piece, nonempty, slices, _⟩ := pieces member
    exact slices.start_lt_stop nonempty
  case inBounds =>
    intro token member
    obtain ⟨piece, _, slices, _⟩ := pieces member
    exact slices.stop_le
  case boundaries =>
    intro token member
    obtain ⟨piece, _, slices, _⟩ := pieces member
    exact slices.isValid
  case apart => exact pairwise_of_tokenize read
  case covered => exact fun mark member => blank_or_covered read member
  case spelled =>
    intro token member
    obtain ⟨piece, nonempty, slices, spelled⟩ := pieces member
    rw [slices.slice_eq nonempty]
    exact spelled
  case numbersApart => exact numbersApart_of_lexemes wordsRead
  case operandBeforeMinus =>
    intro before span behind parts
    rcases operandBeforeMinus_of_lexemes wordsRead parts with ⟨_, none⟩ | operand
    · cases none
    · exact operand
  case whole =>
    have each : ∀ word ∈ lexemes false (Text.marks 0 source.toList), ∀ token, word.read = .ok token →
        bare (slice source token.span) = chars word.marks := by
      intro word member token wordRead
      obtain ⟨piece, nonempty, slices, kept, _⟩ := exists_piece_of_read accepted member wordRead
      rw [slices.slice_eq nonempty, kept]
    calc
      _ = (lexemes false (Text.marks 0 source.toList)).flatMap fun word => chars word.marks :=
        flatMap_of_mapM wordsRead each
      _ = chars (Text.marks 0 source.toList) := by
        rw [← flatMap_lexemes false (Text.marks 0 source.toList), chars, List.map_flatMap,
          flatMap_lexemes]
        rfl
      _ = bare source.toList := Text.chars_marks 0 source.toList

/-- Tokens tell the text that they were read from but for its blanks. Read again, what they spell has the
same tokens at other places. -/
theorem tokenize_retells (read : tokenize source = .ok tokens) :
    Retells source tokens ∧ ∃ again,
      tokenize (String.ofList (tokens.flatMap fun token => bare (slice source token.span))) =
        .ok again ∧
      again.map (·.elem) = tokens.map (·.elem) := by
  have retells := retells_of_tokenize read
  refine ⟨retells, ?_⟩
  rw [retells.whole]
  change ∃ again, tokenize (withoutBlanks source) = .ok again ∧ _
  -- What the tokens spell is the text without its blanks, which has the same tokens elsewhere.
  rw [tokenize_eq_map] at read
  cases found : tokenize (withoutBlanks source) with
  | error failure =>
    rw [found] at read
    cases read
  | ok again =>
    rw [found] at read
    cases read
    refine ⟨again, rfl, ?_⟩
    rw [List.map_map]
    rfl

end Source

/-- Blanks stand within the first two literals, before a sign and at both ends, and the second minus is the
only one that is an operator. -/
theorem tokenize_retells_signs_and_points :
    let source := " - 1\t.5-( -2 .)^ 3 "
    let tokens : Tokens := [⟨.num (-1.5), ⟨1, 7⟩⟩, ⟨.op '-', ⟨7, 8⟩⟩, ⟨.paren .opening, ⟨8, 9⟩⟩,
      ⟨.num (-2), ⟨10, 14⟩⟩, ⟨.paren .closing, ⟨14, 15⟩⟩, ⟨.op '^', ⟨15, 16⟩⟩, ⟨.num 3, ⟨17, 18⟩⟩]
    tokenize source = .ok tokens ∧ Retells source tokens ∧
      ∃ again, tokenize "-1.5-(-2.)^3" = .ok again ∧ again.map (·.elem) = tokens.map (·.elem) := by
  intro source tokens
  have read : tokenize source = .ok tokens := by decide +kernel
  obtain ⟨retells, again⟩ := tokenize_retells read
  have spelled : (tokens.flatMap fun token => bare (slice source token.span)) = "-1.5-(-2.)^3".toList := by
    rw [retells.whole]
    decide
  rw [spelled, String.ofList_toList] at again
  exact ⟨read, retells, again⟩

end Reckon
