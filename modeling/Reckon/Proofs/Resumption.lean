import Reckon.Proofs.Lexical
import Reckon.Proofs.Seams

/-! Texts of which a part has been consumed already. Main statement: whatever was consumed, the rest is read
as it is by itself, at its places in the whole, unless the whole holds a foreign character. -/

namespace Reckon

open Text (byteLength chars located marks)

namespace Scanner

/-- The answer of a scanner that is asked for the next character once more after some turns. -/
def answer (scanner : Scanner) (turn : Nat) : Option (Nat × Char) :=
  scanner.rest[turn]?.map fun c => (scanner.offset + byteLength (scanner.rest.take turn), c)

/-- A scanner that has consumed some characters, or all of them if there are fewer. -/
def skip (scanner : Scanner) (count : Nat) : Scanner where
  source := scanner.source
  offset := scanner.offset + byteLength (scanner.rest.take count)
  rest := scanner.rest.drop count

theorem answer_succ {source rest : List Char} {offset : Nat} (c : Char) (turn : Nat) :
    answer ⟨source, offset, c :: rest⟩ (turn + 1) = answer ⟨source, offset + c.utf8Size, rest⟩ turn := by
  simp [answer, byteLength, Nat.add_assoc]

theorem advance_eq (scanner : Scanner) (count : Nat) :
    scanner.advance count = ((List.range count).map scanner.answer, scanner.skip count) := by
  induction count generalizing scanner with
  | zero => simp [advance, skip, byteLength]
  | succ count ih =>
    obtain ⟨source, offset, rest⟩ := scanner
    cases rest with
    | nil =>
      have none : (List.range (count + 1)).map (answer ⟨source, offset, []⟩) =
          List.replicate (count + 1) none := by
        apply List.eq_replicate_iff.2
        constructor
        · rw [List.length_map, List.length_range]
        · intro found member
          obtain ⟨turn, _, rfl⟩ := List.mem_map.1 member
          rfl
      rw [none]
      simp [advance, next?, skip, byteLength]
    | cons c rest =>
      have first : answer ⟨source, offset, c :: rest⟩ 0 = some (offset, c) := rfl
      have later : (answer ⟨source, offset, c :: rest⟩) ∘ Nat.succ =
          answer ⟨source, offset + c.utf8Size, rest⟩ := funext (answer_succ c)
      rw [List.range_succ_eq_map, List.map_cons, List.map_map, first, later]
      simp [advance, next?, skip, ih, byteLength, Nat.add_assoc]

end Scanner

theorem accepted_of_sublist {source rest : List Char} (inside : rest.Sublist source)
    (accepted : ∀ mark ∈ marks 0 source, isAccepted mark.elem = true) :
    ∀ mark ∈ marks 0 rest, isAccepted mark.elem = true := by
  intro mark member
  have written : mark.elem ∈ chars (marks 0 source) := by
    rw [Text.chars_marks]
    apply (inside.filter _).subset
    rw [← Text.chars_marks 0]
    exact List.mem_map_of_mem member
  obtain ⟨same, there, spelled⟩ := List.mem_map.1 written
  rw [← spelled]
  exact accepted same there

theorem tokenize_of_accepted {offset : Nat} {source rest : List Char} (valid : validate source = .ok ())
    (accepted : ∀ mark ∈ marks 0 rest, isAccepted mark.elem = true) :
    Scanner.tokenize ⟨source, offset, rest⟩ =
      match tokenize (String.ofList rest) with
      | .ok tokens => .ok (tokens.map (Relocation.shift offset).item)
      | .error error => .error ((Relocation.shift offset).parseError error) := by
  have alone : tokenize (String.ofList rest) = (lexemes false (marks 0 rest)).mapM Lexeme.read := by
    rw [tokenize_eq, String.toList_ofList, tokenizeMarks, validateMarks_eq_ok.2 accepted]
    rfl
  rw [Scanner.tokenize_eq, valid, alone]
  change (lexemes false (marks offset rest)).mapM Lexeme.read = _
  rw [Text.marks_shift, (Relocation.shift offset).lexemes_item,
    mapM_natural _ (Relocation.shift offset).parseError _ (Relocation.shift offset).read_lexeme]
  cases (lexemes false (marks 0 rest)).mapM Lexeme.read <;> rfl

/-- However often a scanner is asked for a character, its answers are the characters of the text from the
first one on, each with the bytes before it, and none behind the last one. What it then makes of the rest is
what the rest makes by itself, put behind the bytes that were consumed. Only the foreign characters of
the whole text come first, the consumed ones too. -/
theorem tokenize_advanced (source : String) (count : Nat) :
    let text := source.toList
    let shift := Relocation.shift (byteLength (text.take count))
    let advanced := (Scanner.ofString source).advance count
    advanced.1 = (List.range count).map (fun turn =>
        text[turn]?.map fun c => (byteLength (text.take turn), c)) ∧
      match (located 0 text).find? fun mark => mark.elem ∉ blanks ∧ mark.elem ∉ alphabet with
      | some mark => advanced.2.tokenize = .error (.invalidCharacter mark.elem mark.span)
      | none => advanced.2.tokenize =
        match tokenize (String.ofList (text.drop count)) with
        | .ok tokens => .ok (tokens.map shift.item)
        | .error error => .error (shift.parseError error) := by
  intro text shift advanced
  have parts : advanced = _ := Scanner.advance_eq (Scanner.ofString source) count
  rw [parts, find?_foreign]
  constructor
  · simp [Scanner.answer, Scanner.ofString, text]
  · cases found : (marks 0 source.toList).find? foreignMark with
    | some mark =>
      have invalid : validate source.toList = .error (.invalidCharacter mark.elem mark.span) := by
        rw [validate_eq, validateMarks, found]
      rw [Scanner.tokenize_eq]
      change (validate source.toList).bind _ = _
      rw [invalid]
      rfl
    | none =>
      have accepted : ∀ mark ∈ marks 0 source.toList, isAccepted mark.elem = true := by
        simpa [foreignMark] using List.find?_eq_none.1 found
      have valid : validate source.toList = .ok () := by
        rw [validate_eq, validateMarks_eq_ok]
        exact accepted
      have rest := accepted_of_sublist (List.drop_sublist count source.toList) accepted
      have place : (Scanner.ofString source).skip count =
          ⟨source.toList, byteLength (text.take count), text.drop count⟩ := by
        simp [Scanner.skip, Scanner.ofString, text]
      rw [place, tokenize_of_accepted valid rest]

/-- A minus is a sign once the operand before it has been consumed. -/
example : ((Scanner.ofString "2-3").advance 1).2.tokenize = .ok [⟨.num (-3), ⟨1, 3⟩⟩] := by
  decide +kernel

end Reckon
