import Reckon.Postfix.Evaluation
import Reckon.Proofs.Nesting
import Reckon.Proofs.Operators
import Reckon.Proofs.Sequences

/-! How many values there are while a listing is reckoned, and what is blamed when it fails. Main
statements: a listing with a value has one number more than it has operators, and a listing without one
blames a token of its own or the count of its values. -/

namespace Reckon

def Token.isNum : Token → Bool
  | .num _ => true
  | _ => false

def numbers (tokens : Tokens) : Nat := tokens.countP (·.elem.isNum)

def operators (tokens : Tokens) : Nat := tokens.countP (·.elem.isOp)

namespace Postfix

inductive Takes : Stack Float → Located Token → Stack Float → Prop
  | number (values : Stack Float) (value : Float) (span : Span) :
      Takes values ⟨.num value, span⟩ (values.push value)
  | operator {sym : Char} {left right value : Float} {span : Span} (below : List Float)
      (applied : apply sym left right span = .ok value) :
      Takes ⟨right :: left :: below⟩ ⟨.op sym, span⟩ ⟨value :: below⟩

inductive Stops : Stack Float → Located Token → EvalError → Prop
  | paren (values : Stack Float) (side : Paren) (span : Span) :
      Stops values ⟨.paren side, span⟩ (.strayParenthesis span)
  | operand {values : Stack Float} (sym : Char) (span : Span) (few : values.size < 2) :
      Stops values ⟨.op sym, span⟩ (.insufficientOperands sym span)
  | operator {sym : Char} {left right : Float} {span : Span} {error : EvalError} (below : List Float)
      (failed : apply sym left right span = .error error) :
      Stops ⟨right :: left :: below⟩ ⟨.op sym, span⟩ error

theorem reckon_paren (values : Stack Float) (side : Paren) (span : Span) :
    reckon values ⟨.paren side, span⟩ = .error (.strayParenthesis span) := by
  obtain ⟨items⟩ := values
  match items with
  | [] => rfl
  | [_] => rfl
  | _ :: _ :: _ => rfl

theorem reckon_of_few {values : Stack Float} (few : values.size < 2) (sym : Char) (span : Span) :
    reckon values ⟨.op sym, span⟩ = .error (.insufficientOperands sym span) := by
  obtain ⟨items⟩ := values
  match items with
  | [] => rfl
  | [_] => rfl
  | _ :: _ :: rest =>
    simp only [Stack.size, List.length_cons] at few
    omega

theorem Takes.reckon {values next : Stack Float} {token : Located Token}
    (takes : Takes values token next) : reckon values token = .ok next := by
  cases takes with
  | number _ value span => rfl
  | operator below applied =>
    simp only [Postfix.reckon, applied]
    rfl

theorem Stops.reckon {values : Stack Float} {token : Located Token} {error : EvalError}
    (stops : Stops values token error) : reckon values token = .error error := by
  cases stops with
  | paren _ side span => exact reckon_paren values side span
  | operand sym span few => exact reckon_of_few few sym span
  | operator below failed =>
    simp only [Postfix.reckon, failed]
    rfl

theorem reckon_cases (values : Stack Float) (token : Located Token) :
    (∃ next, Takes values token next) ∨ ∃ error, Stops values token error := by
  obtain ⟨items⟩ := values
  obtain ⟨elem, span⟩ := token
  cases elem with
  | num value => exact .inl ⟨_, .number _ value span⟩
  | paren side => exact .inr ⟨_, .paren _ side span⟩
  | op sym =>
    match items with
    | [] => exact .inr ⟨_, .operand sym span Nat.zero_lt_two⟩
    | [_] => exact .inr ⟨_, .operand sym span Nat.one_lt_two⟩
    | right :: left :: below =>
      cases applied : apply sym left right span with
      | ok value => exact .inl ⟨_, .operator below applied⟩
      | error error => exact .inr ⟨_, .operator below applied⟩

theorem reckon_eq_ok {values next : Stack Float} {token : Located Token} :
    reckon values token = .ok next ↔ Takes values token next := by
  refine ⟨?_, Takes.reckon⟩
  intro reckoned
  rcases reckon_cases values token with ⟨other, takes⟩ | ⟨error, stops⟩
  · cases reckoned.symm.trans takes.reckon
    exact takes
  · cases reckoned.symm.trans stops.reckon

theorem reckon_eq_error {values : Stack Float} {token : Located Token} {error : EvalError} :
    reckon values token = .error error ↔ Stops values token error := by
  refine ⟨?_, Stops.reckon⟩
  intro failed
  rcases reckon_cases values token with ⟨next, takes⟩ | ⟨other, stops⟩
  · cases failed.symm.trans takes.reckon
  · cases failed.symm.trans stops.reckon
    exact stops

theorem size_of_reckon {values next : Stack Float} {token : Located Token}
    (reckoned : reckon values token = .ok next) :
    next.size + operators [token] = values.size + numbers [token] := by
  cases reckon_eq_ok.1 reckoned with
  | number _ value span => rfl
  | operator below applied => rfl

theorem size_of_foldlM_reckon {values last : Stack Float} {listing : Tokens}
    (run : listing.foldlM reckon values = .ok last) :
    last.size + operators listing = values.size + numbers listing := by
  induction listing generalizing values with
  | nil =>
    injection run with run
    rw [run]
    rfl
  | cons token rest ih =>
    rw [List.foldlM_cons] at run
    obtain ⟨next, reckoned, run⟩ := bind_eq_ok.1 run
    have step := size_of_reckon reckoned
    have others := ih run
    simp only [numbers, operators, List.countP_cons, List.countP_nil] at step others ⊢
    omega

theorem result_eq_ok {values : Stack Float} {value : Float} :
    result values = .ok value ↔ values.items = [value] := by
  obtain ⟨items⟩ := values
  match items with
  | [] => simp [result]
  | [_] => simp [result]
  | _ :: _ :: _ => simp [result]

theorem numbers_of_value {listing : Tokens} {value : Float}
    (reckoned : evaluate listing = .ok value) : numbers listing = operators listing + 1 := by
  obtain ⟨values, run, one⟩ := bind_eq_ok.1 reckoned
  have height := size_of_foldlM_reckon run
  rw [Stack.size, result_eq_ok.1 one] at height
  simp only [Stack.empty, Stack.size, List.length_singleton, List.length_nil] at height
  omega

theorem apply_of_isOperator {sym : Char} (known : isOperator sym = true) (left right : Float)
    (span : Span) :
    if sym = '/' ∧ (right == 0) = true then
      apply sym left right span = .error (.divisionByZero span)
    else ∃ value, apply sym left right span = .ok value := by
  rcases Operator.sym_of_isOperator known with rfl | rfl | rfl | rfl | rfl
  case inr.inr.inr.inl =>
    cases zero : right == 0 <;> simp [apply, zero]
  all_goals simp [apply]

theorem apply_of_foreign {sym : Char} (unknown : isOperator sym = false) (left right : Float)
    (span : Span) : apply sym left right span = .error (.unsupportedOperator sym span) := by
  unfold apply
  split
  case h_6 => rfl
  all_goals cases unknown

end Postfix

def EvalError.Blames (token : Located Token) : EvalError → Prop
  | insufficientOperands sym span => token = ⟨.op sym, span⟩
  | divisionByZero span => token = ⟨.op '/', span⟩
  | unsupportedOperator sym span => token = ⟨.op sym, span⟩ ∧ isOperator sym = false
  | malformedExpression _ => False
  | strayParenthesis span => ∃ side, token = ⟨.paren side, span⟩

namespace Postfix

theorem apply_eq_error {sym : Char} {left right : Float} {span : Span} {error : EvalError}
    (failed : apply sym left right span = .error error) : error.Blames ⟨.op sym, span⟩ := by
  cases known : isOperator sym with
  | false =>
    rw [apply_of_foreign known] at failed
    injection failed with failed
    rw [← failed]
    exact ⟨rfl, known⟩
  | true =>
    have applied := apply_of_isOperator known left right span
    split at applied
    · next zero =>
      rw [applied] at failed
      injection failed with failed
      rw [← failed, zero.1]
      rfl
    · obtain ⟨value, applied⟩ := applied
      rw [applied] at failed
      cases failed

theorem Stops.blames {values : Stack Float} {token : Located Token} {error : EvalError}
    (stops : Stops values token error) : error.Blames token := by
  cases stops with
  | paren _ side span => exact ⟨side, rfl⟩
  | operand sym span few => rfl
  | operator below failed => exact apply_eq_error failed

theorem evaluate_eq_error {listing : Tokens} {error : EvalError}
    (failed : evaluate listing = .error error) :
    (∃ token ∈ listing, error.Blames token) ∨ ∃ count, error = .malformedExpression count := by
  rcases bind_eq_error.1 failed with run | ⟨values, _, failed⟩
  · obtain ⟨token, member, state, fails⟩ := foldlM_eq_error run
    exact .inl ⟨token, member, (reckon_eq_error.1 fails).blames⟩
  · right
    obtain ⟨items⟩ := values
    match items with
    | [] => exact ⟨0, (Except.error.inj failed).symm⟩
    | [_] => cases failed
    | first :: second :: rest => exact ⟨_, (Except.error.inj failed).symm⟩

theorem reckon_over {values : Stack Float} {token : Located Token}
    (enough : ∀ sym span, reckon values token ≠ .error (.insufficientOperands sym span))
    (below : List Float) :
    reckon ⟨values.items ++ below⟩ token =
      (reckon values token).map fun next => ⟨next.items ++ below⟩ := by
  obtain ⟨items⟩ := values
  obtain ⟨elem, span⟩ := token
  cases elem with
  | num value => rfl
  | op sym =>
    match items with
    | [] => exact (enough sym span rfl).elim
    | [_] => exact (enough sym span rfl).elim
    | right :: left :: rest =>
      simp only [reckon, List.cons_append]
      cases apply sym left right span <;> rfl
  | paren side =>
    rw [reckon_paren, reckon_paren]
    rfl

theorem foldlM_reckon_over {listing : Tokens} {values : Stack Float}
    (enough : ∀ sym span, listing.foldlM reckon values ≠ .error (.insufficientOperands sym span))
    (below : List Float) :
    listing.foldlM reckon ⟨values.items ++ below⟩ =
      (listing.foldlM reckon values).map fun last => ⟨last.items ++ below⟩ := by
  induction listing generalizing values with
  | nil => rfl
  | cons token rest ih =>
    rw [List.foldlM_cons] at enough
    rw [List.foldlM_cons, List.foldlM_cons]
    cases reckoned : reckon values token with
    | error failure =>
      rw [reckoned] at enough
      rw [reckon_over (reckoned ▸ enough), reckoned]
      rfl
    | ok next =>
      rw [reckoned] at enough
      rw [reckon_over (by simp [reckoned]), reckoned]
      exact ih enough

theorem foldlM_of_evaluate {listing : Tokens} {outcome : Except Span Float}
    (evaluated : evaluate listing = outcome.mapError .divisionByZero) (values : Stack Float) :
    listing.foldlM reckon values = (outcome.mapError .divisionByZero).map values.push := by
  have enough (sym : Char) (place : Span) :
      listing.foldlM reckon .empty ≠ .error (.insufficientOperands sym place) := by
    intro lacking
    rw [evaluate, lacking] at evaluated
    cases outcome <;> cases evaluated
  have above : listing.foldlM reckon values =
      (listing.foldlM reckon .empty).map fun last => ⟨last.items ++ values.items⟩ :=
    foldlM_reckon_over enough values.items
  rw [above]
  cases run : listing.foldlM reckon .empty with
  | error failure =>
    rw [evaluate, run] at evaluated
    cases outcome with
    | error span =>
      cases evaluated
      rfl
    | ok value => cases evaluated
  | ok last =>
    rw [evaluate, run] at evaluated
    change result last = _ at evaluated
    cases outcome with
    | error span =>
      obtain ⟨items⟩ := last
      match items with
      | [] => cases evaluated
      | [_] => cases evaluated
      | _ :: _ :: _ => cases evaluated
    | ok value =>
      simp only [Except.map, Except.mapError, Stack.push, result_eq_ok.1 evaluated]
      rfl

theorem evaluate_of_part {part : Tokens} {number : Float} (valued : evaluate part = .ok number)
    (place : Span) (before behind : Tokens) :
    evaluate (before ++ part ++ behind) = evaluate (before ++ ⟨.num number, place⟩ :: behind) := by
  have pushes (values : Stack Float) : part.foldlM reckon values = .ok (values.push number) := by
    have divided : evaluate part = (Except.ok number : Except Span Float).mapError .divisionByZero :=
      valued
    exact foldlM_of_evaluate divided values
  unfold evaluate
  rw [List.append_assoc, List.foldlM_append, List.foldlM_append]
  cases before.foldlM reckon .empty with
  | error failure => rfl
  | ok values =>
    have same : (part ++ behind).foldlM reckon values =
        (⟨.num number, place⟩ :: behind).foldlM reckon values := by
      rw [foldlM_append_of_ok (pushes values)]
      rfl
    simp only [bind, Except.bind, same]

end Postfix

end Reckon
