import Reckon.Proofs.Moves

/-! Whether a row of tokens has a listing is decided by its parentheses alone. Main statement: the
conversion fails exactly where a check that looks at nothing else fails, for the same reason. -/

namespace Reckon

/-- Checks the parentheses of a row behind those that are open, of which the innermost comes first. -/
def checkParens (maxDepth : Nat) (opened : List Span) : Tokens → Except ParseError Unit
  | [] =>
    match opened with
    | [] => .ok ()
    | innermost :: _ => .error (.unbalancedParentheses innermost)
  | token :: rest =>
    match token.elem.paren?, opened with
    | none, _ => checkParens maxDepth opened rest
    | some .opening, _ =>
      if maxDepth ≤ opened.length then .error (.nestingTooDeep maxDepth token.span)
      else checkParens maxDepth (token.span :: opened) rest
    | some .closing, [] => .error (.unbalancedParentheses token.span)
    | some .closing, _ :: outer => checkParens maxDepth outer rest

def ParseError.Blames (token : Located Token) : ParseError → Prop
  | unbalancedParentheses span => ∃ side, token = ⟨.paren side, span⟩
  | nestingTooDeep _ span => token = ⟨.paren .opening, span⟩
  | _ => False

section CheckParens

variable {maxDepth : Nat} {opened : List Span} {token : Located Token}

theorem checkParens_other (noParen : token.elem.paren? = none) (rest : Tokens) :
    checkParens maxDepth opened (token :: rest) = checkParens maxDepth opened rest := by
  simp only [checkParens, noParen]

theorem checkParens_room (room : opened.length < maxDepth) (opening : Span) (rest : Tokens) :
    checkParens maxDepth opened (⟨.paren .opening, opening⟩ :: rest) =
      checkParens maxDepth (opening :: opened) rest := by
  simp only [checkParens, Token.paren?]
  rw [if_neg (Nat.not_le_of_lt room)]

theorem checkParens_full (full : maxDepth ≤ opened.length) (opening : Span) (rest : Tokens) :
    checkParens maxDepth opened (⟨.paren .opening, opening⟩ :: rest) =
      .error (.nestingTooDeep maxDepth opening) := by
  simp only [checkParens, Token.paren?]
  rw [if_pos full]

theorem checkParens_opening_ok {opening : Span} {rest : Tokens}
    (balanced : checkParens maxDepth opened (⟨.paren .opening, opening⟩ :: rest) = .ok ()) :
    checkParens maxDepth (opening :: opened) rest = .ok () := by
  rcases Nat.lt_or_ge opened.length maxDepth with room | full
  · rw [← checkParens_room room]
    exact balanced
  · rw [checkParens_full full] at balanced
    cases balanced

theorem checkParens_closing (innermost : Span) (outer : List Span) (closing : Span)
    (rest : Tokens) :
    checkParens maxDepth (innermost :: outer) (⟨.paren .closing, closing⟩ :: rest) =
      checkParens maxDepth outer rest := by
  simp only [checkParens, Token.paren?]

theorem checkParens_alone (closing : Span) (rest : Tokens) :
    checkParens maxDepth [] (⟨.paren .closing, closing⟩ :: rest) =
      .error (.unbalancedParentheses closing) := by
  simp only [checkParens, Token.paren?]

theorem checkParens_eq_error {tokens : Tokens} {error : ParseError}
    (failed : checkParens maxDepth opened tokens = .error error) :
    (∃ token ∈ tokens, error.Blames token) ∨
      ∃ opening ∈ opened, error = .unbalancedParentheses opening := by
  induction tokens generalizing opened with
  | nil =>
    cases opened with
    | nil => cases failed
    | cons innermost outer =>
      injection failed with failed
      exact .inr ⟨innermost, List.mem_cons_self, failed.symm⟩
  | cons token rest ih =>
    have fromRest {opened : List Span} (failed : checkParens maxDepth opened rest = .error error) :
        (∃ token' ∈ token :: rest, error.Blames token') ∨
          ∃ opening ∈ opened, error = .unbalancedParentheses opening := by
      rcases ih failed with ⟨later, member, blamed⟩ | earlier
      · exact .inl ⟨later, List.mem_cons_of_mem _ member, blamed⟩
      · exact .inr earlier
    obtain ⟨elem, span⟩ := token
    match elem, opened with
    | .num value, opened =>
      rw [checkParens_other (by rfl)] at failed
      exact fromRest failed
    | .op sym, opened =>
      rw [checkParens_other (by rfl)] at failed
      exact fromRest failed
    | .paren .opening, opened =>
      rcases Nat.lt_or_ge opened.length maxDepth with room | full
      · rw [checkParens_room room] at failed
        rcases fromRest failed with later | ⟨opening, member, unbalanced⟩
        · exact .inl later
        · rcases List.mem_cons.1 member with rfl | earlier
          · rw [unbalanced]
            exact .inl ⟨_, List.mem_cons_self, .opening, rfl⟩
          · exact .inr ⟨opening, earlier, unbalanced⟩
      · rw [checkParens_full full] at failed
        injection failed with failed
        rw [← failed]
        exact .inl ⟨_, List.mem_cons_self, rfl⟩
    | .paren .closing, [] =>
      rw [checkParens_alone] at failed
      injection failed with failed
      rw [← failed]
      exact .inl ⟨_, List.mem_cons_self, .closing, rfl⟩
    | .paren .closing, innermost :: outer =>
      rw [checkParens_closing] at failed
      rcases fromRest failed with later | ⟨opening, member, unbalanced⟩
      · exact .inl later
      · exact .inr ⟨opening, List.mem_cons_of_mem _ member, unbalanced⟩

end CheckParens

namespace Postfix.Conversion

def openSpans (waiting : Tokens) : List Span :=
  (waiting.filter (·.elem.isOpening)).map (·.span)

theorem openSpans_of_inside {inner : Tokens} (inside : ∀ token ∈ inner, notOpening token = true)
    (outer : Tokens) : openSpans (inner ++ outer) = openSpans outer := by
  have none : inner.filter (·.elem.isOpening) = [] := by
    rw [List.filter_eq_nil_iff]
    intro token member
    simpa [notOpening] using inside token member
  rw [openSpans, List.filter_append, none]
  rfl

theorem openSpans_of_closed {waiting : Tokens} (closed : ∀ token ∈ waiting, notOpening token = true) :
    openSpans waiting = [] := by
  have none := openSpans_of_inside closed []
  rw [List.append_nil] at none
  exact none

theorem openSpans_opening (opening : Span) (outer : Tokens) :
    openSpans (⟨.paren .opening, opening⟩ :: outer) = opening :: openSpans outer := rfl

theorem notOpening_of_precedes {operator : Operator} {token : Located Token}
    (carries : precedes operator token = true) : notOpening token = true := by
  obtain ⟨sym, op⟩ := Token.exists_of_isOp (isOp_of_precedes carries)
  rw [notOpening, op]
  rfl

def Counts (conversion : Conversion) : Prop :=
  conversion.depth = (openSpans conversion.waiting.items).length

theorem Counts.depth_eq_succ {listed : Array (Located Token)} {inner outer : Tokens} {opening : Span}
    {depth : Nat} (counts : Counts ⟨listed, ⟨inner ++ ⟨.paren .opening, opening⟩ :: outer⟩, depth⟩)
    (inside : ∀ token ∈ inner, notOpening token = true) : depth = (openSpans outer).length + 1 := by
  rw [Counts, openSpans_of_inside inside, openSpans_opening, List.length_cons] at counts
  exact counts

variable {maxDepth : Nat}

theorem Moves.checkParens {before after : Conversion} {token : Located Token}
    (moves : Moves maxDepth before token after) (counts : Counts before) (rest : Tokens) :
    Counts after ∧ Reckon.checkParens maxDepth (openSpans before.waiting.items) (token :: rest) =
      Reckon.checkParens maxDepth (openSpans after.waiting.items) rest := by
  cases moves with
  | lists value span => exact ⟨counts, checkParens_other rfl rest⟩
  | @waits listed carried outer depth sym operator span found carries holds =>
    have inside : ∀ token ∈ carried, notOpening token = true := by
      intro token member
      exact notOpening_of_precedes (carries token member)
    have popped := openSpans_of_inside inside outer
    simp only [Counts, popped] at counts ⊢
    exact ⟨counts, checkParens_other rfl rest⟩
  | blocks span unknown => exact ⟨counts, checkParens_other rfl rest⟩
  | opens span room =>
    refine ⟨congrArg (· + 1) counts, checkParens_room ?_ span rest⟩
    exact (counts : _ = _) ▸ room
  | closes opening span inside =>
    refine ⟨Nat.sub_eq_of_eq_add (counts.depth_eq_succ inside), ?_⟩
    rw [openSpans_of_inside inside, openSpans_opening]
    exact checkParens_closing _ _ _ _

theorem foldlM_accept_outcome {conversion : Conversion} (counts : Counts conversion)
    (tokens : Tokens) :
    ((tokens.foldlM (accept maxDepth) conversion).bind finish).map (fun _ => ()) =
      Reckon.checkParens maxDepth (openSpans conversion.waiting.items) tokens := by
  induction tokens generalizing conversion with
  | nil =>
    change (finish conversion).map _ = _
    rcases conversion.finish_cases with ⟨closed, ok⟩ | ⟨inner, opening, outer, parts, inside, error⟩
    · rw [ok, openSpans_of_closed closed]
      rfl
    · rw [error, parts, openSpans_of_inside inside]
      rfl
  | cons token rest ih =>
    rcases accept_cases maxDepth conversion token with
      ⟨after, moves⟩ | ⟨opening, full⟩ | ⟨closing, alone⟩
    · obtain ⟨countsAfter, same⟩ := moves.checkParens counts rest
      rw [foldlM_cons_of_ok moves.accept, same]
      exact ih countsAfter
    · rw [List.foldlM_cons, accept_of_full opening full]
      obtain ⟨elem, span⟩ := token
      cases opening
      exact (checkParens_full ((counts : _ = _) ▸ full) span rest).symm
    · rw [List.foldlM_cons, accept_of_alone closing alone, openSpans_of_closed alone]
      obtain ⟨elem, span⟩ := token
      cases closing
      exact (checkParens_alone span rest).symm

end Postfix.Conversion

/-- A row of tokens has a listing if its parentheses are in order, and else fails as they do. -/
theorem Postfix.ofTokens_outcome (maxDepth : Nat) (tokens : Tokens) :
    (ofTokens maxDepth tokens).map (fun _ => ()) = checkParens maxDepth [] tokens := by
  have counts : Conversion.Counts .empty := rfl
  exact Conversion.foldlM_accept_outcome counts tokens

theorem Postfix.ofTokens_eq_error {maxDepth : Nat} {tokens : Tokens} {error : ParseError}
    (failed : ofTokens maxDepth tokens = .error error) : ∃ token ∈ tokens, error.Blames token := by
  have outcome := ofTokens_outcome maxDepth tokens
  rw [failed] at outcome
  rcases checkParens_eq_error outcome.symm with blamed | ⟨opening, none, _⟩
  · exact blamed
  · cases none

end Reckon
