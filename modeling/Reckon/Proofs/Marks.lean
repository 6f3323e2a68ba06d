import Reckon.Scanner

/-! The characters of a text with the bytes they take. The scan sees only those that are no blanks,
so blanks are dropped here once and for all. -/

namespace Reckon

namespace Text

def located : Nat → List Char → List (Located Char)
  | _, [] => []
  | offset, c :: rest => ⟨c, ⟨offset, offset + c.utf8Size⟩⟩ :: located (offset + c.utf8Size) rest

/-- The characters that are no blanks. -/
def marks (offset : Nat) (source : List Char) : List (Located Char) :=
  (located offset source).filter fun mark => !isBlank mark.elem

def chars (marks : List (Located Char)) : List Char := marks.map (·.elem)

@[simp] theorem chars_nil : chars [] = [] := rfl

@[simp] theorem chars_cons (mark : Located Char) (rest : List (Located Char)) :
    chars (mark :: rest) = mark.elem :: chars rest := rfl

@[simp] theorem chars_append (first second : List (Located Char)) :
    chars (first ++ second) = chars first ++ chars second :=
  List.map_append

theorem byteLength_append (first second : List Char) :
    byteLength (first ++ second) = byteLength first + byteLength second := by
  induction first with
  | nil => simp [byteLength]
  | cons c rest ih => simp [byteLength, ih, Nat.add_assoc]

theorem byteLength_toList (source : String) : byteLength source.toList = source.utf8ByteSize := by
  obtain ⟨text, rfl⟩ := source.exists_eq_ofList
  rw [String.toList_ofList]
  induction text with
  | nil => rfl
  | cons c rest ih =>
    rw [byteLength, ih, ← List.singleton_append, String.ofList_append, String.utf8ByteSize_append]
    simp

theorem located_append (offset : Nat) (first second : List Char) :
    located offset (first ++ second) =
      located offset first ++ located (offset + byteLength first) second := by
  induction first generalizing offset with
  | nil => simp [located, byteLength]
  | cons c rest ih => simp [located, byteLength, ih, Nat.add_assoc]

theorem chars_located (offset : Nat) (source : List Char) : chars (located offset source) = source := by
  induction source generalizing offset with
  | nil => rfl
  | cons c rest ih => simp [located, ih]

theorem marks_cons_blank {c : Char} (blank : isBlank c = true) (offset : Nat) (rest : List Char) :
    marks offset (c :: rest) = marks (offset + c.utf8Size) rest := by
  simp [marks, located, blank]

theorem marks_cons_mark {c : Char} (notBlank : isBlank c = false) (offset : Nat)
    (rest : List Char) :
    marks offset (c :: rest) =
      ⟨c, ⟨offset, offset + c.utf8Size⟩⟩ :: marks (offset + c.utf8Size) rest := by
  simp [marks, located, notBlank]

theorem chars_marks (offset : Nat) (source : List Char) :
    chars (marks offset source) = source.filter fun c => !isBlank c := by
  conv => rhs; rw [← chars_located offset source, chars, List.filter_map]
  rfl

theorem notBlank_of_mem_marks {offset : Nat} {source : List Char} {mark : Located Char}
    (member : mark ∈ marks offset source) : isBlank mark.elem = false := by
  simpa using (List.mem_filter.1 member).2

def Sized (mark : Located Char) : Prop := mark.span.stop = mark.span.start + mark.elem.utf8Size

theorem sized_of_mem_located {offset : Nat} {source : List Char} {mark : Located Char}
    (member : mark ∈ located offset source) : Sized mark := by
  induction source generalizing offset with
  | nil => cases member
  | cons c rest ih =>
    rcases List.mem_cons.1 member with rfl | later
    · rfl
    · exact ih later

theorem sized_of_mem_marks {offset : Nat} {source : List Char} {mark : Located Char}
    (member : mark ∈ marks offset source) : Sized mark :=
  sized_of_mem_located (List.mem_filter.1 member).1

theorem bounds_of_mem_located {offset : Nat} {source : List Char} {mark : Located Char}
    (member : mark ∈ located offset source) :
    offset ≤ mark.span.start ∧ mark.span.start < mark.span.stop := by
  induction source generalizing offset with
  | nil => cases member
  | cons c rest ih =>
    rcases List.mem_cons.1 member with rfl | later
    · exact ⟨Nat.le_refl _, Nat.lt_add_of_pos_right c.utf8Size_pos⟩
    · obtain ⟨behind, forward⟩ := ih later
      exact ⟨Nat.le_trans (Nat.le_add_right _ _) behind, forward⟩

theorem stop_le_of_mem_located {offset : Nat} {source : List Char} {mark : Located Char}
    (member : mark ∈ located offset source) : mark.span.stop ≤ offset + byteLength source := by
  induction source generalizing offset with
  | nil => cases member
  | cons c rest ih =>
    rw [byteLength, ← Nat.add_assoc]
    rcases List.mem_cons.1 member with rfl | later
    · exact Nat.le_add_right _ _
    · exact ih later

end Text

namespace Scan

def take (scan : Scan) (mark : Located Char) : Except ParseError Scan :=
  scan.step mark.span.start mark.elem

theorem run_eq_foldlM (scan : Scan) (offset : Nat) (source : List Char) :
    scan.run offset source = (Text.marks offset source).foldlM take scan := by
  induction source generalizing scan offset with
  | nil => rfl
  | cons c rest ih =>
    cases blank : isBlank c with
    | true =>
      rw [Text.marks_cons_blank blank, run, step, if_pos blank]
      exact ih scan _
    | false =>
      rw [Text.marks_cons_mark blank, List.foldlM_cons, run]
      simp only [take]
      cases scan.step offset c with
      | error failure => rfl
      | ok next => exact ih next _

end Scan

end Reckon
