import Reckon.Proofs.Blame
import Reckon.Proofs.Order

/-! What limits do. Main statement: a limit cuts a text off or leaves its outcome as it is, and of two
limits the narrower one cuts off no later. -/

namespace Reckon

structure Limits.Within (limits wider : Limits) : Prop where
  length : limits.maxInputLen ≤ wider.maxInputLen
  depth : limits.maxNestingDepth ≤ wider.maxNestingDepth

def CutOff : Outcome → Prop
  | .error (.parse (.inputTooLong _ _)) => True
  | .error (.parse (.nestingTooDeep _ _)) => True
  | _ => False

namespace Postfix

variable {depth deeper : Nat}

namespace Conversion

theorem Moves.of_deeper {before after : Conversion} {token : Located Token}
    (moves : Moves depth before token after) (wider : depth ≤ deeper) :
    Moves deeper before token after := by
  cases moves with
  | lists value span => exact .lists value span
  | waits span found carries holds => exact .waits span found carries holds
  | blocks span unknown => exact .blocks span unknown
  | opens span room => exact .opens span (Nat.lt_of_lt_of_le room wider)
  | closes opening span inside => exact .closes opening span inside

theorem accept_eq_error {before : Conversion} {token : Located Token} {error : ParseError}
    (failed : accept depth before token = .error error) : error.Blames token := by
  obtain ⟨elem, span⟩ := token
  rcases accept_cases depth before ⟨elem, span⟩ with ⟨after, moves⟩ | ⟨opening, full⟩ | ⟨closing, alone⟩
  · rw [moves.accept] at failed
    cases failed
  · rw [accept_of_full opening full] at failed
    cases failed
    cases opening
    rfl
  · rw [accept_of_alone closing alone] at failed
    cases failed
    cases closing
    exact ⟨.closing, rfl⟩

theorem finish_ne_nestingTooDeep (conversion : Conversion) (max : Nat) (span : Span) :
    conversion.finish ≠ .error (.nestingTooDeep max span) := by
  intro failed
  rcases conversion.finish_cases with ⟨_, ok⟩ | ⟨_, _, _, _, _, error⟩
  · rw [ok] at failed
    cases failed
  · rw [error] at failed
    cases failed

/-- Two runs under different limits go together up to a parenthesis for which the narrower limit leaves
no room. -/
theorem foldlM_accept_deeper (wider : depth ≤ deeper) (tokens : Tokens) (start : Conversion) :
    (tokens.foldlM (accept deeper) start = tokens.foldlM (accept depth) start ∧
      ∀ max span, tokens.foldlM (accept depth) start ≠ .error (.nestingTooDeep max span)) ∨
    ∃ front opening back reached, tokens = front ++ ⟨.paren .opening, opening⟩ :: back ∧
      front.foldlM (accept deeper) start = .ok reached ∧
        tokens.foldlM (accept depth) start = .error (.nestingTooDeep depth opening) := by
  -- Until the narrower run finds no room both runs are in one state.
  induction tokens generalizing start with
  | nil => exact .inl ⟨rfl, nofun⟩
  | cons token rest ih =>
    rcases accept_cases depth start token with ⟨next, moves⟩ | ⟨opening, full⟩ | ⟨closing, alone⟩
    · have narrow := foldlM_cons_of_ok moves.accept rest
      have wide := foldlM_cons_of_ok (moves.of_deeper wider).accept
      rcases ih next with ⟨same, fits⟩ | ⟨front, opening, back, reached, parts, run, failed⟩
      · left
        rw [narrow, wide]
        exact ⟨same, fits⟩
      · refine .inr ⟨token :: front, opening, back, reached, ?_, ?_, ?_⟩
        · rw [parts, List.cons_append]
        · rw [wide, run]
        · rw [narrow, failed]
    · obtain ⟨elem, span⟩ := token
      cases opening
      refine .inr ⟨[], span, rest, start, rfl, rfl, ?_⟩
      rw [List.foldlM_cons, accept_of_full rfl full]
      rfl
    · left
      rw [List.foldlM_cons, List.foldlM_cons, accept_of_alone closing alone,
        accept_of_alone closing alone]
      exact ⟨rfl, nofun⟩

end Conversion

open Conversion (accept accept_eq_error finish_ne_nestingTooDeep foldlM_accept_deeper)

theorem ofTokens_deeper (wider : depth ≤ deeper) (tokens : Tokens) :
    (ofTokens deeper tokens = ofTokens depth tokens ∧
      ∀ max span, ofTokens depth tokens ≠ .error (.nestingTooDeep max span)) ∨
    ∃ front opening back, tokens = front ++ ⟨.paren .opening, opening⟩ :: back ∧
      ofTokens depth tokens = .error (.nestingTooDeep depth opening) ∧
        ∀ max span, ofTokens deeper tokens = .error (.nestingTooDeep max span) →
          ⟨.paren .opening, span⟩ ∈ (⟨.paren .opening, opening⟩ :: back : Tokens) := by
  rcases foldlM_accept_deeper wider tokens .empty with
    ⟨same, fits⟩ | ⟨front, opening, back, reached, parts, run, failed⟩
  · left
    constructor
    · unfold ofTokens
      rw [same]
    · intro max span tooDeep
      rcases bind_eq_error.1 tooDeep with running | ⟨last, _, finishing⟩
      · exact fits max span running
      · exact finish_ne_nestingTooDeep last max span finishing
  · refine .inr ⟨front, opening, back, parts, ?_, ?_⟩
    · unfold ofTokens
      rw [failed]
      rfl
    · intro max span tooDeep
      rcases bind_eq_error.1 tooDeep with running | ⟨last, _, finishing⟩
      · rw [parts, foldlM_append_of_ok run] at running
        obtain ⟨token, member, state, refused⟩ := foldlM_eq_error running
        have blamed : token = ⟨.paren .opening, span⟩ := accept_eq_error refused
        rw [← blamed]
        exact member
      · exact (finish_ne_nestingTooDeep last max span finishing).elim

end Postfix

variable {limits wider : Limits} {expression : String}

theorem not_cutOff_of_unread {error : ParseError} (unread : tokenize expression = .error error) :
    ¬CutOff (.error (.parse error)) := by
  rw [tokenize_eq, tokenizeMarks] at unread
  rcases bind_eq_error.1 unread with invalid | ⟨_, _, unread⟩
  · obtain ⟨mark, _, rfl⟩ := validateMarks_eq_error invalid
    exact id
  · obtain ⟨word, _, unread⟩ := mapM_eq_error unread
    cases word with
    | number first more =>
      rcases Lexeme.readNumber_eq_error unread with ⟨mark, _, rfl⟩ | ⟨rfl, _, _⟩
      · exact id
      · exact id
    | symbol mark =>
      rw [Lexeme.read_symbol_eq_error unread]
      exact id

theorem length_of_inputTooLong {length max : Nat}
    (long : limits.evaluate expression = .error (.parse (.inputTooLong length max))) :
    limits.maxInputLen < expression.utf8ByteSize ∧ length = expression.utf8ByteSize := by
  rcases Nat.lt_or_ge limits.maxInputLen expression.utf8ByteSize with exceeds | short
  · rw [Limits.evaluate_of_long exceeds] at long
    cases long
    exact ⟨exceeds, rfl⟩
  · exfalso
    rw [Limits.evaluate_of_short short] at long
    rcases reckonTokens_eq_error long with
      ⟨error, unread, same⟩ | ⟨tokens, _, ⟨error, unlisted, same⟩ | ⟨_, _, _, _, same⟩⟩
    · cases same
      exact not_cutOff_of_unread unread trivial
    · cases same
      obtain ⟨token, _, blamed⟩ := Postfix.ofTokens_eq_error unlisted
      exact blamed
    · cases same

theorem start_le_of_mem {tokens front back : Tokens} {opening span : Span}
    (read : tokenize expression = .ok tokens)
    (parts : tokens = front ++ ⟨.paren .opening, opening⟩ :: back)
    (member : ⟨.paren .opening, span⟩ ∈ (⟨.paren .opening, opening⟩ :: back : Tokens)) :
    opening.start ≤ span.start := by
  have ordered := pairwise_of_tokenize read
  rw [parts] at ordered
  have inside : ⟨.paren .opening, opening⟩ ∈ tokens := by
    rw [parts]
    exact List.mem_append_right _ List.mem_cons_self
  have forward := (slices_of_paren (mapM_read_of_tokenize read) inside).start_lt_stop (List.cons_ne_nil _ _)
  rcases List.mem_cons.1 member with same | later
  · cases same
    exact Nat.le_refl _
  · have apart := (List.pairwise_cons.1 (List.pairwise_append.1 ordered).2.1).1 _ later
    exact Nat.le_trans (Nat.le_of_lt forward) apart

theorem reckonTokens_eq_parse {depth : Nat} {tokens : Tokens} {error : ParseError} :
    reckonTokens depth (.ok tokens) = .error (.parse error) ↔
      Postfix.ofTokens depth tokens = .error error := by
  refine ⟨?_, reckonTokens_of_unlisted⟩
  intro failed
  rcases reckonTokens_eq_error failed with
    ⟨_, unread, _⟩ | ⟨row, read, ⟨cause, unlisted, same⟩ | ⟨_, _, _, _, same⟩⟩
  · cases unread
  · cases read
    cases same
    exact unlisted
  · cases same

theorem reckonTokens_deeper {depth deeper : Nat} (wider : depth ≤ deeper) (expression : String) :
    (reckonTokens deeper (tokenize expression) = reckonTokens depth (tokenize expression) ∧
      ∀ max span, reckonTokens deeper (tokenize expression) ≠
        .error (.parse (.nestingTooDeep max span))) ∨
    ∃ earlier, reckonTokens depth (tokenize expression) =
        .error (.parse (.nestingTooDeep depth earlier)) ∧
      ∀ max span, reckonTokens deeper (tokenize expression) =
        .error (.parse (.nestingTooDeep max span)) → earlier.start ≤ span.start := by
  cases read : tokenize expression with
  | error error =>
    refine .inl ⟨rfl, ?_⟩
    intro max span tooDeep
    have other := not_cutOff_of_unread read
    cases tooDeep
    exact other trivial
  | ok tokens =>
    rcases Postfix.ofTokens_deeper wider tokens with
      ⟨same, fits⟩ | ⟨front, opening, back, parts, tooDeep, later⟩
    · left
      constructor
      · rw [reckonTokens_ok, reckonTokens_ok, same]
      · intro max span tooDeep
        rw [reckonTokens_eq_parse, same] at tooDeep
        exact fits max span tooDeep
    · refine .inr ⟨opening, reckonTokens_eq_parse.2 tooDeep, ?_⟩
      intro max span deeperFails
      exact start_le_of_mem read parts (later max span (reckonTokens_eq_parse.1 deeperFails))

/-- A text that limits do not cut off has the same outcome under wider ones. One that is too long for the
wider limits is too long for the narrower ones, and one that is nested too deep for the wider limits is
too long for the narrower ones or nested too deep for them, at the same place or before it. -/
theorem evaluate_within (within : limits.Within wider) (expression : String) :
    (¬CutOff (limits.evaluate expression) →
      wider.evaluate expression = limits.evaluate expression) ∧
    (∀ length max, wider.evaluate expression = .error (.parse (.inputTooLong length max)) →
      limits.evaluate expression = .error (.parse (.inputTooLong length limits.maxInputLen))) ∧
    ∀ max span, wider.evaluate expression = .error (.parse (.nestingTooDeep max span)) →
      (∃ length, limits.evaluate expression =
        .error (.parse (.inputTooLong length limits.maxInputLen))) ∨
      ∃ earlier, limits.evaluate expression =
        .error (.parse (.nestingTooDeep limits.maxNestingDepth earlier)) ∧
          earlier.start ≤ span.start := by
  rcases Nat.lt_or_ge limits.maxInputLen expression.utf8ByteSize with long | short
  · have cut := Limits.evaluate_of_long long
    refine ⟨?_, ?_, fun _ _ _ => .inl ⟨_, cut⟩⟩
    · intro uncut
      rw [cut] at uncut
      exact (uncut trivial).elim
    · intro length max longer
      rw [cut, (length_of_inputTooLong longer).2]
  · have fits := Nat.le_trans short within.length
    refine ⟨?_, ?_, ?_⟩
    · intro uncut
      rw [Limits.evaluate_of_short short] at uncut ⊢
      rw [Limits.evaluate_of_short fits]
      rcases reckonTokens_deeper within.depth expression with ⟨same, _⟩ | ⟨earlier, tooDeep, _⟩
      · exact same
      · rw [tooDeep] at uncut
        exact (uncut trivial).elim
    · intro length max longer
      exact (Nat.not_lt.2 fits (length_of_inputTooLong longer).1).elim
    · intro max span tooDeep
      rw [Limits.evaluate_of_short fits] at tooDeep
      rw [Limits.evaluate_of_short short]
      rcases reckonTokens_deeper within.depth expression with ⟨_, none⟩ | ⟨earlier, first, before⟩
      · exact (none max span tooDeep).elim
      · exact .inr ⟨earlier, first, before max span tooDeep⟩

/-- The third parenthesis in a row is too deep for the wider limits, and the narrower ones cut the text off
at the second one. A text with one group has its value under both. -/
theorem evaluate_within_deeper_groups :
    let limits : Limits := ⟨20, 1⟩
    let wider : Limits := ⟨30, 2⟩
    limits.Within wider ∧
      wider.evaluate "(1)+((2)*((3)))" = .error (.parse (.nestingTooDeep 2 ⟨10, 11⟩)) ∧
        limits.evaluate "(1)+((2)*((3)))" = .error (.parse (.nestingTooDeep 1 ⟨5, 6⟩)) ∧
          limits.evaluate "(1)+2" = .ok 3 ∧ wider.evaluate "(1)+2" = .ok 3 := by
  intro limits wider
  have within : limits.Within wider := ⟨by decide, by decide⟩
  have tooDeep : wider.evaluate "(1)+((2)*((3)))" = .error (.parse (.nestingTooDeep 2 ⟨10, 11⟩)) := by
    decide +kernel
  have value : limits.evaluate "(1)+2" = .ok 3 := by decide +kernel
  obtain ⟨_, _, earlier⟩ := evaluate_within within "(1)+((2)*((3)))"
  obtain ⟨unchanged, _, _⟩ := evaluate_within within "(1)+2"
  have first : limits.evaluate "(1)+((2)*((3)))" = .error (.parse (.nestingTooDeep 1 ⟨5, 6⟩)) := by
    rcases earlier 2 ⟨10, 11⟩ tooDeep with ⟨length, tooLong⟩ | ⟨place, cut, before⟩
    · exact (Nat.not_lt.2 (by decide) (length_of_inputTooLong tooLong).1).elim
    · decide +kernel
  refine ⟨within, tooDeep, first, value, ?_⟩
  rw [unchanged (by rw [value]; exact id), value]

end Reckon
