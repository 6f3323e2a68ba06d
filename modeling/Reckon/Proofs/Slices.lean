import Mathlib.Data.String.Basic
import Reckon.Proofs.Lexeme

/-! Where the pieces of a text stand. Main statements: a mark is the slice of the text that its span
names, and so is a row of marks, blanks between them included. -/

namespace Reckon.Text

/-- The span of an expression that a piece of it fills. -/
def Slices (expression : String) (span : Span) (piece : List Char) : Prop :=
  ∃ before after, expression.toList = before ++ piece ++ after ∧
    span = ⟨byteLength before, byteLength before + byteLength piece⟩

section Extract

open String.Pos.Raw (extract)

theorem byteLength_pos {text : List Char} (nonempty : text ≠ []) : 0 < byteLength text := by
  cases text with
  | nil => exact absurd rfl nonempty
  | cons c rest => exact Nat.lt_of_lt_of_le c.utf8Size_pos (Nat.le_add_right _ _)

/-- The scan of the library for a position is not there yet where a character is still to come. -/
theorem ne_behind (position : Nat) (c : Char) (rest : List Char) :
    (⟨position⟩ : String.Pos.Raw) ≠ ⟨position + byteLength (c :: rest)⟩ := by
  intro same
  have indices := congrArg String.Pos.Raw.byteIdx same
  have positive := byteLength_pos (List.cons_ne_nil c rest)
  simp only at indices
  omega

theorem extract_take (piece after : List Char) (position : Nat) :
    extract.go₂ (piece ++ after) ⟨position⟩ ⟨position + byteLength piece⟩ = piece := by
  induction piece generalizing position with
  | nil => cases after <;> simp [extract.go₂, byteLength]
  | cons c rest ih =>
    have next := ih (position + c.utf8Size)
    rw [Nat.add_assoc] at next
    rw [List.cons_append, extract.go₂, if_neg (ne_behind position c rest)]
    exact congrArg (c :: ·) next

theorem extract_drop (before rest : List Char) (position : Nat) (stop : String.Pos.Raw) :
    extract.go₁ (before ++ rest) ⟨position⟩ ⟨position + byteLength before⟩ stop =
      extract.go₂ rest ⟨position + byteLength before⟩ stop := by
  induction before generalizing position with
  | nil =>
    cases rest with
    | nil => rfl
    | cons c rest => simp [extract.go₁, byteLength]
  | cons c before ih =>
    have next := ih (position + c.utf8Size)
    rw [Nat.add_assoc] at next
    rw [List.cons_append, extract.go₁, if_neg (ne_behind position c before)]
    exact next

end Extract

section Slices

variable {expression : String} {span : Span} {piece : List Char}

theorem Slices.extract_eq (slices : Slices expression span piece) (nonempty : piece ≠ []) :
    String.Pos.Raw.extract expression ⟨span.start⟩ ⟨span.stop⟩ = String.ofList piece := by
  obtain ⟨before, after, parts, rfl⟩ := slices
  have positive := byteLength_pos nonempty
  have forward : ¬byteLength before ≥ byteLength before + byteLength piece := by omega
  have dropped := extract_drop before (piece ++ after) 0
    ⟨byteLength before + byteLength piece⟩
  rw [Nat.zero_add] at dropped
  simp only [String.Pos.Raw.extract]
  rw [if_neg forward, parts, List.append_assoc]
  exact congrArg String.ofList (dropped.trans (extract_take piece after _))

theorem isValid_of_append {before after : List Char} (parts : expression.toList = before ++ after) :
    (⟨byteLength before⟩ : String.Pos.Raw).IsValid expression := by
  rw [String.Pos.Raw.isValid_iff_exists_append]
  refine ⟨String.ofList before, String.ofList after, ?_, ?_⟩
  · rw [← String.ofList_append, ← parts, String.ofList_toList]
  · rw [String.rawEndPos, ← byteLength_toList, String.toList_ofList]

theorem Slices.isValid (slices : Slices expression span piece) :
    (⟨span.start⟩ : String.Pos.Raw).IsValid expression ∧
      (⟨span.stop⟩ : String.Pos.Raw).IsValid expression := by
  obtain ⟨before, after, parts, rfl⟩ := slices
  constructor
  · rw [List.append_assoc] at parts
    exact isValid_of_append parts
  · rw [← byteLength_append]
    exact isValid_of_append parts

theorem Slices.stop_le (slices : Slices expression span piece) :
    span.stop ≤ expression.utf8ByteSize := by
  obtain ⟨before, after, parts, rfl⟩ := slices
  rw [← byteLength_toList, parts, byteLength_append, byteLength_append]
  exact Nat.le_add_right _ _

theorem Slices.start_lt_stop (slices : Slices expression span piece) (nonempty : piece ≠ []) :
    span.start < span.stop := by
  obtain ⟨before, after, _, rfl⟩ := slices
  exact Nat.lt_add_of_pos_right (byteLength_pos nonempty)

end Slices

theorem mem_located_append (offset : Nat) (before : List Char) (c : Char) (after : List Char) :
    ⟨c, ⟨offset + byteLength before, offset + byteLength before + c.utf8Size⟩⟩ ∈
      located offset (before ++ c :: after) := by
  rw [located_append]
  exact List.mem_append_right _ List.mem_cons_self

theorem Slices.exists_located {expression : String} {span : Span} {piece : List Char}
    (slices : Slices expression span piece) (nonempty : piece ≠ []) :
    ∃ first ∈ located 0 expression.toList, ∃ last ∈ located 0 expression.toList,
      span = ⟨first.span.start, last.span.stop⟩ := by
  obtain ⟨before, after, parts, rfl⟩ := slices
  have first : ∃ first ∈ located 0 expression.toList, first.span.start = byteLength before := by
    obtain ⟨c, rest, rfl⟩ := List.exists_cons_of_ne_nil nonempty
    rw [parts, List.append_assoc, List.cons_append]
    exact ⟨_, mem_located_append 0 before c _, Nat.zero_add _⟩
  have last : ∃ last ∈ located 0 expression.toList,
      last.span.stop = byteLength before + byteLength piece := by
    obtain ⟨inner, c, rfl⟩ := (List.eq_nil_or_concat piece).resolve_left nonempty
    rw [parts, List.concat_eq_append, ← List.append_assoc, List.append_assoc _ [c]]
    refine ⟨_, mem_located_append 0 (before ++ inner) c after, ?_⟩
    simp [byteLength_append, byteLength, Nat.add_assoc]
  obtain ⟨first, firstMember, start⟩ := first
  obtain ⟨last, lastMember, stop⟩ := last
  exact ⟨first, firstMember, last, lastMember, by rw [start, stop]⟩

theorem exists_of_marks {offset : Nat} {source : List Char} {left right : List (Located Char)}
    {mark : Located Char} (parts : marks offset source = left ++ mark :: right) :
    ∃ before after, source = before ++ mark.elem :: after ∧ marks offset before = left ∧
      mark.span = ⟨offset + byteLength before, offset + byteLength before + mark.elem.utf8Size⟩ ∧
        marks mark.span.stop after = right := by
  induction source generalizing offset left with
  | nil => cases left <;> cases parts
  | cons c rest ih =>
    cases blank : isBlank c with
    | true =>
      rw [marks_cons_blank blank] at parts
      obtain ⟨before, after, rfl, leftMarks, place, rightMarks⟩ := ih parts
      refine ⟨c :: before, after, rfl, ?_, ?_, rightMarks⟩
      · rw [marks_cons_blank blank, leftMarks]
      · rw [place, byteLength, Nat.add_assoc offset]
    | false =>
      rw [marks_cons_mark blank] at parts
      cases left with
      | nil =>
        injection parts with same rightMarks
        rw [← same]
        exact ⟨[], rest, rfl, rfl, rfl, rightMarks⟩
      | cons first left =>
        injection parts with same parts
        obtain ⟨before, after, rfl, leftMarks, place, rightMarks⟩ := ih parts
        refine ⟨c :: before, after, rfl, ?_, ?_, rightMarks⟩
        · rw [marks_cons_mark blank, leftMarks, same]
        · rw [place, byteLength, Nat.add_assoc offset]

theorem slices_of_mem_marks {expression : String} {mark : Located Char}
    (member : mark ∈ marks 0 expression.toList) : Slices expression mark.span [mark.elem] := by
  obtain ⟨left, right, parts⟩ := List.append_of_mem member
  obtain ⟨before, after, around, _, place, _⟩ := exists_of_marks parts
  refine ⟨before, after, ?_, ?_⟩
  · rw [around, List.append_assoc, List.singleton_append]
  · rw [place, Nat.zero_add]
    rfl

theorem slices_cover {expression : String} {left more right : List (Located Char)}
    {first : Located Char}
    (parts : marks 0 expression.toList = left ++ first :: (more ++ right)) :
    ∃ piece, Slices expression (cover first more) piece ∧ piece.head? = some first.elem ∧
      piece.getLast? = some (more.getLastD first).elem ∧
        piece.filter (fun c => !isBlank c) = chars (first :: more) := by
  have notBlank : ∀ mark ∈ first :: more, isBlank mark.elem = false := by
    intro mark member
    have written : mark ∈ marks 0 expression.toList := by
      rw [parts, ← List.cons_append]
      exact List.mem_append_right _ (List.mem_append_left _ member)
    exact notBlank_of_mem_marks written
  obtain ⟨before, rest, around, _, place, tail⟩ := exists_of_marks parts
  rw [Nat.zero_add] at place
  rcases List.eq_nil_or_concat more with rfl | ⟨inner, last, rfl⟩
  · refine ⟨[first.elem], ⟨before, rest, ?_, ?_⟩, rfl, rfl, ?_⟩
    · rw [around, List.append_assoc, List.singleton_append]
    · simp [cover, place, byteLength]
    · simp [notBlank first]
  · rw [List.concat_eq_append] at tail notBlank ⊢
    rw [List.append_assoc, List.singleton_append] at tail
    obtain ⟨middle, after, rfl, innerMarks, lastPlace, _⟩ := exists_of_marks tail
    refine ⟨first.elem :: (middle ++ [last.elem]), ⟨before, after, ?_, ?_⟩, rfl, ?_, ?_⟩
    · simp [around]
    · simp [cover, place, lastPlace, byteLength, byteLength_append, Nat.add_assoc]
    · rw [← List.cons_append, List.getLast?_concat, List.getLastD_concat]
    · have innerChars := chars_marks first.span.stop middle
      rw [innerMarks] at innerChars
      simp [notBlank first, notBlank last, innerChars]

theorem slices_literal {expression : String} {afterOperand : Bool} {first : Located Char}
    {more : List (Located Char)}
    (member : .number first more ∈ lexemes afterOperand (marks 0 expression.toList)) :
    ∃ piece, Slices expression (cover first more) piece ∧ piece.head? = some first.elem ∧
      piece.getLast? = some (more.getLastD first).elem ∧
        piece.filter (fun c => !isBlank c) = chars (first :: more) := by
  obtain ⟨left, right, parts⟩ := List.append_of_mem member
  have whole := flatMap_lexemes afterOperand (marks 0 expression.toList)
  rw [parts, List.flatMap_append, List.flatMap_cons, Lexeme.marks, List.cons_append] at whole
  exact slices_cover whole.symm

end Reckon.Text
