import Reckon.Proofs.Blame
import Reckon.Proofs.Relocation

/-! Blanks change no outcome. Main statement: a text has the value of the text without its blanks, or
its failure, with the span of it read in the text as it stands. -/

namespace Reckon

namespace Text

def withoutBlanks (expression : String) : String :=
  String.ofList (expression.toList.filter fun c => !isBlank c)

/-- The offset in a text of a byte that is given by its offset in the text without blanks. -/
def rawOffset : List Char → Nat → Nat
  | [], offset => offset
  | c :: rest, offset =>
    if isBlank c then c.utf8Size + rawOffset rest offset
    else if offset < c.utf8Size then offset
    else c.utf8Size + rawOffset rest (offset - c.utf8Size)

section RawOffset

variable {c : Char} {rest : List Char} {offset : Nat}

theorem rawOffset_blank (blank : isBlank c = true) :
    rawOffset (c :: rest) offset = c.utf8Size + rawOffset rest offset := by
  rw [rawOffset, if_pos blank]

theorem rawOffset_inside (notBlank : isBlank c = false) (inside : offset < c.utf8Size) :
    rawOffset (c :: rest) offset = offset := by
  rw [rawOffset, if_neg (Bool.eq_false_iff.1 notBlank), if_pos inside]

theorem rawOffset_behind (notBlank : isBlank c = false) (behind : c.utf8Size ≤ offset) :
    rawOffset (c :: rest) offset = c.utf8Size + rawOffset rest (offset - c.utf8Size) := by
  rw [rawOffset, if_neg (Bool.eq_false_iff.1 notBlank), if_neg (Nat.not_lt.2 behind)]

end RawOffset

/-- The places in a text at `offset` of what stands in the text without blanks at `base`. A span stops
behind its last byte. -/
def rawPlaces (offset base : Nat) (source : List Char) : Relocation where
  start place := offset + rawOffset source (place - base)
  stop place := offset + rawOffset source (place - 1 - base) + 1

theorem marks_eq_map_located (offset base : Nat) (source : List Char) :
    marks offset source = (located base (source.filter fun c => !isBlank c)).map
      (rawPlaces offset base source).item := by
  induction source generalizing offset base with
  | nil => rfl
  | cons c rest ih =>
    cases blank : isBlank c with
    | true =>
      rw [marks_cons_blank blank, ih _ base, List.filter_cons_of_neg (by simp [blank])]
      apply List.map_congr_left
      intro mark _
      simp only [Relocation.item, Relocation.span, rawPlaces, rawOffset_blank blank, Nat.add_assoc]
    | false =>
      rw [marks_cons_mark blank, ih _ (base + c.utf8Size), List.filter_cons_of_pos (by simp [blank]),
        located, List.map_cons]
      have size := c.utf8Size_pos
      congr 1
      · have stop : base + c.utf8Size - 1 - base < c.utf8Size := by omega
        have last : offset + (base + c.utf8Size - 1 - base) + 1 = offset + c.utf8Size := by omega
        simp only [Relocation.item, Relocation.span, rawPlaces, Nat.sub_self,
          rawOffset_inside blank size, rawOffset_inside blank stop, last, Nat.add_zero]
      · apply List.map_congr_left
        intro mark member
        obtain ⟨behind, forward⟩ := bounds_of_mem_located member
        have start : c.utf8Size ≤ mark.span.start - base := by omega
        have stop : c.utf8Size ≤ mark.span.stop - 1 - base := by omega
        simp only [Relocation.item, Relocation.span, rawPlaces, rawOffset_behind blank start,
          rawOffset_behind blank stop, Nat.sub_add_eq, Nat.add_assoc]

theorem withoutBlanks_toList (expression : String) :
    (withoutBlanks expression).toList = expression.toList.filter fun c => !isBlank c :=
  String.toList_ofList

theorem marks_withoutBlanks (expression : String) :
    marks 0 (withoutBlanks expression).toList = located 0 (withoutBlanks expression).toList := by
  rw [marks, List.filter_eq_self]
  intro mark member
  have inside : mark.elem ∈ (withoutBlanks expression).toList := by
    rw [← chars_located 0 (withoutBlanks expression).toList]
    exact List.mem_map_of_mem member
  rw [withoutBlanks_toList] at inside
  exact (List.mem_filter.1 inside).2

theorem utf8ByteSize_withoutBlanks_le (expression : String) :
    (withoutBlanks expression).utf8ByteSize ≤ expression.utf8ByteSize := by
  rw [← byteLength_toList, ← byteLength_toList, withoutBlanks_toList]
  induction expression.toList with
  | nil => exact Nat.le_refl _
  | cons c rest ih =>
    cases blank : isBlank c with
    | true =>
      rw [List.filter_cons_of_neg (by simp [blank])]
      exact Nat.le_trans ih (Nat.le_add_left _ _)
    | false =>
      rw [List.filter_cons_of_pos (by simp [blank])]
      exact Nat.add_le_add_left ih _

theorem rawPlaces_span {expression : String} {first last : Located Char}
    (member : last ∈ located 0 (withoutBlanks expression).toList) :
    (rawPlaces 0 0 expression.toList).span ⟨first.span.start, last.span.stop⟩ =
      ⟨rawOffset expression.toList first.span.start,
        rawOffset expression.toList last.span.start + last.elem.utf8Size⟩ := by
  have there : (rawPlaces 0 0 expression.toList).item last ∈ marks 0 expression.toList := by
    rw [marks_eq_map_located 0 0, ← withoutBlanks_toList]
    exact List.mem_map_of_mem member
  have stop : (rawPlaces 0 0 expression.toList).stop last.span.stop =
      (rawPlaces 0 0 expression.toList).start last.span.start + last.elem.utf8Size :=
    sized_of_mem_marks there
  rw [Relocation.span, stop]
  simp only [rawPlaces, Nat.zero_add, Nat.sub_zero]

end Text

open Text (located rawOffset rawPlaces withoutBlanks)

variable {limits : Limits} {expression : String}

theorem tokenize_eq_map (expression : String) :
    tokenize expression =
      ((tokenize (withoutBlanks expression)).mapError
        (rawPlaces 0 0 expression.toList).parseError).map
          (List.map (rawPlaces 0 0 expression.toList).item) := by
  rw [tokenize_eq, tokenize_eq, Text.marks_withoutBlanks, Text.marks_eq_map_located 0 0,
    ← Text.withoutBlanks_toList, Relocation.tokenizeMarks_item]

theorem evaluate_eq_mapError (short : expression.utf8ByteSize ≤ limits.maxInputLen) :
    limits.evaluate expression = (limits.evaluate (withoutBlanks expression)).mapError
      (rawPlaces 0 0 expression.toList).failure := by
  have shorter := Nat.le_trans (Text.utf8ByteSize_withoutBlanks_le expression) short
  rw [Limits.evaluate_of_short short, Limits.evaluate_of_short shorter, tokenize_eq, tokenize_eq,
    Text.marks_withoutBlanks, Text.marks_eq_map_located 0 0, ← Text.withoutBlanks_toList,
    Relocation.reckonTokens_item]

/-- A text has the value of the text without its blanks, or fails for the same reason. A span from
one character to another then is the span from the former to the latter in the text as it stands. -/
theorem evaluate_withoutBlanks (short : expression.utf8ByteSize ≤ limits.maxInputLen) :
    match limits.evaluate (withoutBlanks expression) with
    | .ok value => limits.evaluate expression = .ok value
    | .error failure => ∃ places : Relocation,
        limits.evaluate expression = .error (places.failure failure) ∧
          ∀ span ∈ failure.span?,
            ∃ first ∈ located 0 (withoutBlanks expression).toList,
              ∃ last ∈ located 0 (withoutBlanks expression).toList,
                span = ⟨first.span.start, last.span.stop⟩ ∧
                  places.span span = ⟨rawOffset expression.toList first.span.start,
                    rawOffset expression.toList last.span.start + last.elem.utf8Size⟩ := by
  have outcome := evaluate_eq_mapError short
  cases bare : limits.evaluate (withoutBlanks expression) with
  | ok value =>
    rw [bare] at outcome
    exact outcome
  | error failure =>
    rw [bare] at outcome
    refine ⟨rawPlaces 0 0 expression.toList, outcome, ?_⟩
    intro span place
    rcases evaluate_pointsAt bare with
      ⟨found, piece, same, nonempty, slices, _⟩ | ⟨length, max, rfl⟩ | ⟨count, rfl⟩
    · obtain ⟨first, firstMember, last, lastMember, rfl⟩ := slices.exists_located nonempty
      rw [← Option.some_inj.1 (same.symm.trans place)]
      exact ⟨first, firstMember, last, lastMember, rfl, Text.rawPlaces_span lastMember⟩
    · cases place
    · cases place

/-- The blanks within a literal count for the place of its second point. -/
theorem evaluate_withoutBlanks_second_point :
    "1 .\t2 .3".utf8ByteSize ≤ ({} : Limits).maxInputLen ∧
      ({} : Limits).evaluate "1.2.3" = .error (.parse (.invalidCharacter '.' ⟨3, 4⟩)) ∧
        ({} : Limits).evaluate "1 .\t2 .3" = .error (.parse (.invalidCharacter '.' ⟨6, 7⟩)) := by
  have short : "1 .\t2 .3".utf8ByteSize ≤ ({} : Limits).maxInputLen := by decide
  have bare : withoutBlanks "1 .\t2 .3" = "1.2.3" := by decide
  have refused : ({} : Limits).evaluate "1.2.3" =
      .error (.parse (.invalidCharacter '.' ⟨3, 4⟩)) := by decide +kernel
  have outcome := evaluate_withoutBlanks short
  rw [bare, refused] at outcome
  obtain ⟨places, failed, spans⟩ := outcome
  obtain ⟨first, _, last, lastMember, same, moved⟩ := spans ⟨3, 4⟩ rfl
  injection same with start stop
  have onlyPoint : ∀ last ∈ located 0 "1.2.3".toList, last.span.stop = 4 → last = ⟨'.', ⟨3, 4⟩⟩ := by
    decide
  rw [← start, onlyPoint last lastMember stop.symm] at moved
  have there : places.span ⟨3, 4⟩ = ⟨6, 7⟩ := moved.trans (by decide)
  refine ⟨short, refused, failed.trans ?_⟩
  rw [Relocation.failure, Relocation.parseError, there]

end Reckon
