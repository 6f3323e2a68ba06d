import Reckon.Proofs.Balance

/-! Which parenthesis of a row is blamed. Main statement: the first one that finds no room or no partner
before it, else the last one that finds no partner behind it, and nothing but parentheses matters. -/

namespace Reckon

/-- Rows in which every parenthesis has its partner. -/
inductive Closed : Tokens → Prop
  | nil : Closed []
  | other {token : Located Token} {rest : Tokens} (noParen : token.elem.paren? = none)
      (behind : Closed rest) : Closed (token :: rest)
  | group {inner rest : Tokens} (opening closing : Span) (inside : Closed inner)
      (behind : Closed rest) :
      Closed (⟨.paren .opening, opening⟩ :: (inner ++ ⟨.paren .closing, closing⟩ :: rest))

/-- Some tokens hold the partner of an opening parenthesis that stands directly before them. -/
def HasPartner (behind : Tokens) : Prop :=
  ∃ inner closing rest, behind = inner ++ ⟨.paren .closing, closing⟩ :: rest ∧ Closed inner

def AllClosed (tokens : Tokens) : Prop :=
  ∀ before opening behind, tokens = before ++ ⟨.paren .opening, opening⟩ :: behind → HasPartner behind

def LastOpen (tokens : Tokens) (opening : Span) : Prop :=
  ∃ before behind, tokens = before ++ ⟨.paren .opening, opening⟩ :: behind ∧ ¬HasPartner behind ∧
    AllClosed behind

def openCount (tokens : Tokens) : Nat := Paren.openBehind 0 (parens tokens)

/-- The parentheses that are refused as soon as they are read, behind the tokens before them. -/
inductive Refuses (maxDepth : Nat) (before : Tokens) : Located Token → ParseError → Prop
  | noRoom (opening : Span) (full : openCount before = maxDepth) :
      Refuses maxDepth before ⟨.paren .opening, opening⟩ (.nestingTooDeep maxDepth opening)
  | noPartner (closing : Span) (alone : openCount before = 0) :
      Refuses maxDepth before ⟨.paren .closing, closing⟩ (.unbalancedParentheses closing)

def Passes (maxDepth : Nat) (tokens : Tokens) : Prop :=
  ∀ before token behind error, tokens = before ++ token :: behind →
    ¬Refuses maxDepth before token error

def FirstRefused (maxDepth : Nat) (tokens : Tokens) (error : ParseError) : Prop :=
  ∃ before token behind, tokens = before ++ token :: behind ∧ Refuses maxDepth before token error ∧
    Passes maxDepth before

section Closed

variable {tokens : Tokens}

theorem Closed.append {first second : Tokens} (front : Closed first) (back : Closed second) :
    Closed (first ++ second) := by
  induction front with
  | nil => exact back
  | other noParen behind ih => exact .other noParen ih
  | group opening closing inside behind ihInside ihBehind =>
    rw [List.cons_append, List.append_assoc, List.cons_append]
    exact .group opening closing inside ihBehind

theorem Closed.openBehind (closed : Closed tokens) (opened : Nat) :
    Paren.openBehind opened (parens tokens) = opened := by
  induction closed generalizing opened with
  | nil => rfl
  | @other token rest noParen behind ih =>
    rw [parens, List.filterMap_cons, noParen]
    exact ih opened
  | @group inner rest opening closing inside behind ihInside ihBehind =>
    change Paren.openBehind (opened + 1) (parens (inner ++ _)) = opened
    rw [parens_append, Paren.openBehind_append, ihInside]
    exact ihBehind opened

theorem Closed.lt_openBehind (closed : Closed tokens) {before behind : Tokens} {closing : Span}
    (parts : tokens = before ++ ⟨.paren .closing, closing⟩ :: behind) (opened : Nat) :
    opened < Paren.openBehind opened (parens before) := by
  induction closed generalizing before behind opened with
  | nil => cases before <;> cases parts
  | @other token rest noParen closedBehind ih =>
    cases before with
    | nil =>
      injection parts with same
      rw [same] at noParen
      cases noParen
    | cons first before =>
      injection parts with same parts
      rw [← same, parens, List.filterMap_cons, noParen]
      exact ih parts opened
  | @group inner rest opening other inside closedBehind ihInside ihBehind =>
    cases before with
    | nil => cases parts
    | cons first before =>
      injection parts with same parts
      rw [← same]
      change opened < Paren.openBehind (opened + 1) (parens before)
      rcases append_cons_cases parts with ⟨middle, split, _⟩ | ⟨rfl, _⟩ | ⟨middle, rfl, split⟩
      · exact Nat.lt_of_succ_lt (ihInside split (opened + 1))
      · rw [inside.openBehind]
        exact Nat.lt_succ_self opened
      · rw [parens_append, Paren.openBehind_append, inside.openBehind]
        exact ihBehind split opened

theorem HasPartner.append {behind : Tokens} (partner : HasPartner behind) (rest : Tokens) :
    HasPartner (behind ++ rest) := by
  obtain ⟨inner, closing, tail, rfl, inside⟩ := partner
  exact ⟨inner, closing, tail ++ rest, by simp, inside⟩

theorem Closed.allClosed (closed : Closed tokens) : AllClosed tokens := by
  induction closed with
  | nil =>
    intro before opening behind parts
    cases before <;> cases parts
  | @other token rest noParen closedBehind ih =>
    intro before opening behind parts
    cases before with
    | nil =>
      injection parts with same
      rw [same] at noParen
      cases noParen
    | cons first before =>
      injection parts with _ parts
      exact ih before opening behind parts
  | @group inner rest opening closing inside closedBehind ihInside ihBehind =>
    intro before other behind parts
    cases before with
    | nil =>
      injection parts with _ parts
      exact ⟨inner, closing, rest, parts.symm, inside⟩
    | cons first before =>
      injection parts with _ parts
      rcases append_cons_cases parts with ⟨middle, split, rfl⟩ | ⟨_, same, _⟩ | ⟨middle, _, split⟩
      · exact (ihInside before other middle split).append _
      · cases same
      · exact ihBehind middle other behind split

theorem Closed.not_hasPartner (closed : Closed tokens) : ¬HasPartner tokens := by
  rintro ⟨inner, closing, rest, parts, inside⟩
  have more := closed.lt_openBehind parts 0
  rw [inside.openBehind] at more
  exact Nat.lt_irrefl 0 more

end Closed

/-- A row in which the given parentheses are still open, the innermost first. -/
inductive Opens : Tokens → List Span → Prop
  | none {tokens : Tokens} (closed : Closed tokens) : Opens tokens []
  | innermost {before inner : Tokens} {outer : List Span} (opening : Span)
      (opens : Opens before outer) (closed : Closed inner) :
      Opens (before ++ ⟨.paren .opening, opening⟩ :: inner) (opening :: outer)

section Opens

variable {tokens : Tokens} {opened : List Span}

theorem Opens.append (opens : Opens tokens opened) {behind : Tokens} (closed : Closed behind) :
    Opens (tokens ++ behind) opened := by
  cases opens with
  | none front => exact .none (front.append closed)
  | innermost opening outer inside =>
    rw [List.append_assoc, List.cons_append]
    exact .innermost opening outer (inside.append closed)

theorem Opens.close {innermost : Span} (opens : Opens tokens (innermost :: opened)) (closing : Span) :
    Opens (tokens ++ [⟨.paren .closing, closing⟩]) opened := by
  cases opens with
  | innermost opening outer inside =>
    rw [List.append_assoc, List.cons_append]
    exact outer.append (.group innermost closing inside .nil)

theorem Opens.openCount_eq (opens : Opens tokens opened) : openCount tokens = opened.length := by
  induction opens with
  | none closed => exact closed.openBehind 0
  | innermost opening outer inside ih =>
    rw [openCount, parens_append, Paren.openBehind_append, ← openCount, ih]
    exact inside.openBehind _

theorem LastOpen.of_opens {innermost : Span} (opens : Opens tokens (innermost :: opened)) :
    LastOpen tokens innermost := by
  cases opens with
  | innermost opening outer inside => exact ⟨_, _, rfl, inside.not_hasPartner, inside.allClosed⟩

end Opens

section Refused

variable {maxDepth : Nat} {tokens : Tokens}

theorem LastOpen.not_allClosed {opening : Span} (last : LastOpen tokens opening) :
    ¬AllClosed tokens := by
  obtain ⟨before, behind, parts, alone, _⟩ := last
  intro closed
  exact alone (closed before opening behind parts)

theorem LastOpen.unique {first second : Span} (one : LastOpen tokens first)
    (other : LastOpen tokens second) : first = second := by
  obtain ⟨before, behind, rfl, alone, closed⟩ := one
  obtain ⟨before', behind', parts, alone', closed'⟩ := other
  rcases append_cons_cases parts with ⟨middle, _, split⟩ | ⟨_, same, _⟩ | ⟨middle, _, split⟩
  · exact absurd (closed' middle first behind split) alone
  · cases same
    rfl
  · exact absurd (closed middle second behind' split) alone'

theorem Refuses.unique {before : Tokens} {token : Located Token} {first second : ParseError}
    (one : Refuses maxDepth before token first) (other : Refuses maxDepth before token second) :
    first = second := by
  cases one <;> cases other <;> rfl

theorem FirstRefused.unique {first second : ParseError} (one : FirstRefused maxDepth tokens first)
    (other : FirstRefused maxDepth tokens second) : first = second := by
  obtain ⟨before, token, behind, rfl, refused, passes⟩ := one
  obtain ⟨before', token', behind', parts, refused', passes'⟩ := other
  rcases append_cons_cases parts with ⟨middle, split, _⟩ | ⟨rfl, rfl, _⟩ | ⟨middle, split, _⟩
  · exact absurd refused' (passes before' token' middle second split)
  · exact refused.unique refused'
  · exact absurd refused (passes' before token middle first split)

theorem FirstRefused.not_passes {error : ParseError} (first : FirstRefused maxDepth tokens error) :
    ¬Passes maxDepth tokens := by
  obtain ⟨before, token, behind, parts, refused, _⟩ := first
  intro passes
  exact passes before token behind error parts refused

theorem passes_nil : Passes maxDepth [] := by
  intro before token behind error parts
  cases before <;> cases parts

theorem Passes.concat {token : Located Token} (passes : Passes maxDepth tokens)
    (accepted : ∀ error, ¬Refuses maxDepth tokens token error) :
    Passes maxDepth (tokens ++ [token]) := by
  intro before other behind error parts
  rcases append_cons_cases parts with ⟨middle, split, _⟩ | ⟨rfl, rfl, _⟩ | ⟨middle, _, split⟩
  · exact passes before other middle error split
  · exact accepted error
  · cases middle <;> cases split

end Refused

/-- What is to be said about the parentheses of a row. -/
inductive Verdict (maxDepth : Nat) (tokens : Tokens) : Except ParseError Unit → Prop
  | refused {error : ParseError} (first : FirstRefused maxDepth tokens error) :
      Verdict maxDepth tokens (.error error)
  | leftOpen {opening : Span} (passes : Passes maxDepth tokens) (last : LastOpen tokens opening) :
      Verdict maxDepth tokens (.error (.unbalancedParentheses opening))
  | balanced (passes : Passes maxDepth tokens) (closed : AllClosed tokens) :
      Verdict maxDepth tokens (.ok ())

theorem verdict_checkParens {maxDepth : Nat} {before : Tokens} {opened : List Span}
    (passes : Passes maxDepth before) (opens : Opens before opened)
    (room : opened.length ≤ maxDepth) (rest : Tokens) :
    Verdict maxDepth (before ++ rest) (checkParens maxDepth opened rest) := by
  induction rest generalizing before opened with
  | nil =>
    rw [List.append_nil]
    cases opened with
    | nil =>
      cases opens with
      | none closed => exact .balanced passes closed.allClosed
    | cons innermost outer => exact .leftOpen passes (.of_opens opens)
  | cons token rest ih =>
    have count := opens.openCount_eq
    -- A token that is not refused joins those that pass, and the rest is left to the induction.
    have further {after : List Span} (accepted : ∀ error, ¬Refuses maxDepth before token error)
        (opens : Opens (before ++ [token]) after) (room : after.length ≤ maxDepth) :
        Verdict maxDepth (before ++ token :: rest) (checkParens maxDepth after rest) := by
      have later := ih (passes.concat accepted) opens room
      rw [List.append_assoc] at later
      exact later
    have plain (noParen : token.elem.paren? = none) :
        Verdict maxDepth (before ++ token :: rest) (checkParens maxDepth opened (token :: rest)) := by
      rw [checkParens_other noParen]
      refine further ?_ (opens.append (.other noParen .nil)) room
      intro error refused
      cases refused <;> cases noParen
    obtain ⟨elem, span⟩ := token
    cases elem with
    | num value => exact plain rfl
    | op sym => exact plain rfl
    | paren side =>
      cases side with
      | opening =>
        rcases Nat.lt_or_eq_of_le room with less | full
        · rw [checkParens_room less]
          refine further ?_ (.innermost span opens .nil) less
          intro error refused
          cases refused with
          | noRoom opening full => omega
        · rw [checkParens_full (Nat.le_of_eq full.symm)]
          exact .refused ⟨before, _, rest, rfl, .noRoom span (count.trans full), passes⟩
      | closing =>
        cases opened with
        | nil =>
          rw [checkParens_alone]
          exact .refused ⟨before, _, rest, rfl, .noPartner span count, passes⟩
        | cons innermost outer =>
          rw [checkParens_closing]
          refine further ?_ (opens.close span) (Nat.le_of_succ_le room)
          intro error refused
          cases refused with
          | noPartner closing alone =>
            rw [alone] at count
            cases count

section Verdict

variable {maxDepth : Nat} {tokens : Tokens} {outcome : Except ParseError Unit}

theorem Verdict.eq_error_iff (verdict : Verdict maxDepth tokens outcome) {error : ParseError} :
    outcome = .error error ↔ FirstRefused maxDepth tokens error ∨ Passes maxDepth tokens ∧
      ∃ opening, LastOpen tokens opening ∧ error = .unbalancedParentheses opening := by
  cases verdict with
  | refused first =>
    constructor
    · rintro ⟨⟩
      exact .inl first
    · rintro (other | ⟨passes, _⟩)
      · rw [first.unique other]
      · exact absurd passes first.not_passes
  | leftOpen passes last =>
    constructor
    · rintro ⟨⟩
      exact .inr ⟨passes, _, last, rfl⟩
    · rintro (first | ⟨_, opening, other, rfl⟩)
      · exact absurd passes first.not_passes
      · rw [last.unique other]
  | balanced passes closed =>
    refine ⟨nofun, ?_⟩
    rintro (first | ⟨_, opening, last, _⟩)
    · exact absurd passes first.not_passes
    · exact absurd closed last.not_allClosed

theorem Verdict.eq_ok_iff (verdict : Verdict maxDepth tokens outcome) :
    outcome = .ok () ↔ Passes maxDepth tokens ∧ AllClosed tokens := by
  cases verdict with
  | refused first => exact ⟨nofun, fun ⟨passes, _⟩ => absurd passes first.not_passes⟩
  | leftOpen passes last => exact ⟨nofun, fun ⟨_, closed⟩ => absurd closed last.not_allClosed⟩
  | balanced passes closed => exact ⟨fun _ => ⟨passes, closed⟩, fun _ => rfl⟩

end Verdict

theorem checkParens_filter (maxDepth : Nat) (opened : List Span) (tokens : Tokens) :
    checkParens maxDepth opened (tokens.filter fun token => token.elem.paren?.isSome) =
      checkParens maxDepth opened tokens := by
  induction tokens generalizing opened with
  | nil => rfl
  | cons token rest ih =>
    obtain ⟨elem, span⟩ := token
    match elem, opened with
    | .num value, opened => exact ih opened
    | .op sym, opened => exact ih opened
    | .paren .opening, opened =>
      rw [List.filter_cons_of_pos rfl]
      rcases Nat.lt_or_ge opened.length maxDepth with room | full
      · rw [checkParens_room room, checkParens_room room]
        exact ih (span :: opened)
      · rw [checkParens_full full, checkParens_full full]
    | .paren .closing, [] => rfl
    | .paren .closing, _ :: outer => exact ih outer

/-- A row of tokens fails at the first parenthesis that is refused. Where none is, it fails at the last one
that is left open, and where none is left open it has a listing. Only the parentheses decide. -/
theorem ofTokens_verdict (maxDepth : Nat) (tokens : Tokens) :
    (∀ error, Postfix.ofTokens maxDepth tokens = .error error ↔
        FirstRefused maxDepth tokens error ∨ Passes maxDepth tokens ∧
          ∃ opening, LastOpen tokens opening ∧ error = .unbalancedParentheses opening) ∧
      ((∃ listing, Postfix.ofTokens maxDepth tokens = .ok listing) ↔
        Passes maxDepth tokens ∧ AllClosed tokens) ∧
      (Postfix.ofTokens maxDepth tokens).map (fun _ => ()) =
        (Postfix.ofTokens maxDepth (tokens.filter fun token => token.elem.paren?.isSome)).map
          fun _ => () := by
  have nothing : Passes maxDepth [] := passes_nil
  have verdict := verdict_checkParens nothing (.none .nil) (Nat.zero_le maxDepth) tokens
  rw [List.nil_append, ← Postfix.ofTokens_outcome] at verdict
  refine ⟨?_, ?_, ?_⟩
  · intro error
    rw [← verdict.eq_error_iff]
    cases Postfix.ofTokens maxDepth tokens <;> simp [Except.map]
  · rw [← verdict.eq_ok_iff]
    cases Postfix.ofTokens maxDepth tokens <;> simp [Except.map]
  · rw [Postfix.ofTokens_outcome, Postfix.ofTokens_outcome, checkParens_filter]

end Reckon
