import Reckon.Proofs.Tokenize

/-! Tokens stand in the order of the text and apart from each other. -/

namespace Reckon

/-- What stands before something else ends before it begins. -/
def Located.Precedes {α : Type} (first second : Located α) : Prop :=
  first.span.stop ≤ second.span.start

theorem Text.pairwise_marks (offset : Nat) (source : List Char) :
    (marks offset source).Pairwise Located.Precedes := by
  apply List.Pairwise.filter
  induction source generalizing offset with
  | nil => exact .nil
  | cons c rest ih =>
    refine .cons ?_ (ih _)
    intro mark member
    exact (bounds_of_mem_located member).1

theorem Lexeme.exists_span_of_read {word : Lexeme} {token : Located Token}
    (read : word.read = .ok token) :
    ∃ first ∈ word.marks, ∃ last ∈ word.marks,
      token.span = ⟨first.span.start, last.span.stop⟩ := by
  cases word with
  | number first more =>
    obtain ⟨value, rfl⟩ := exists_num_of_readNumber read
    exact ⟨first, List.mem_cons_self, more.getLastD first, List.getLastD_mem_cons, rfl⟩
  | symbol mark =>
    have place := (read_symbol_eq_ok read).1
    exact ⟨mark, List.mem_cons_self, mark, List.mem_cons_self, place⟩

theorem pairwise_of_lexemes {afterOperand : Bool} {marks : List (Located Char)} {tokens : Tokens}
    (read : (lexemes afterOperand marks).mapM Lexeme.read = .ok tokens)
    (ordered : marks.Pairwise Located.Precedes) : tokens.Pairwise Located.Precedes := by
  rw [← flatMap_lexemes afterOperand marks, List.pairwise_flatMap] at ordered
  refine pairwise_of_mapM read ordered.2 ?_
  intro word later apart token next wordRead laterRead
  obtain ⟨_, _, last, lastMember, place⟩ := Lexeme.exists_span_of_read wordRead
  obtain ⟨first, firstMember, _, _, nextPlace⟩ := Lexeme.exists_span_of_read laterRead
  rw [Located.Precedes, place, nextPlace]
  exact apart last lastMember first firstMember

theorem pairwise_of_tokenize {expression : String} {tokens : Tokens}
    (read : tokenize expression = .ok tokens) : tokens.Pairwise Located.Precedes :=
  pairwise_of_lexemes (mapM_read_of_tokenize read) (Text.pairwise_marks _ _)

end Reckon
