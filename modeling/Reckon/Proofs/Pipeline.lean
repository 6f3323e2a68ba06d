import Reckon.Trace
import Reckon.Proofs.Sequences

/-! What the outcome of a text is made of. -/

namespace Reckon

open Postfix (ofTokens)

def reckonTokens (maxNestingDepth : Nat) (tokens : Except ParseError Tokens) : Outcome :=
  (tokens.mapError .parse).bind fun tokens =>
    ((ofTokens maxNestingDepth tokens).mapError .parse).bind fun listing =>
      (Postfix.evaluate listing).mapError .eval

theorem reckonTokens_ok (maxNestingDepth : Nat) (tokens : Tokens) :
    reckonTokens maxNestingDepth (.ok tokens) =
      ((ofTokens maxNestingDepth tokens).mapError .parse).bind fun listing =>
        (Postfix.evaluate listing).mapError .eval := rfl

section Reckon

variable {maxNestingDepth : Nat} {tokens : Tokens}

theorem reckonTokens_of_unlisted {error : ParseError}
    (unlisted : ofTokens maxNestingDepth tokens = .error error) :
    reckonTokens maxNestingDepth (.ok tokens) = .error (.parse error) := by
  rw [reckonTokens_ok, unlisted]
  rfl

theorem reckonTokens_of_listed {listing : Tokens}
    (listed : ofTokens maxNestingDepth tokens = .ok listing) :
    reckonTokens maxNestingDepth (.ok tokens) = (Postfix.evaluate listing).mapError .eval := by
  rw [reckonTokens_ok, listed]
  rfl

theorem reckonTokens_eq_error {read : Except ParseError Tokens} {failure : Failure}
    (failed : reckonTokens maxNestingDepth read = .error failure) :
    (∃ error, read = .error error ∧ failure = .parse error) ∨
      ∃ tokens, read = .ok tokens ∧
        ((∃ error, ofTokens maxNestingDepth tokens = .error error ∧ failure = .parse error) ∨
          ∃ listing error, ofTokens maxNestingDepth tokens = .ok listing ∧
            Postfix.evaluate listing = .error error ∧ failure = .eval error) := by
  rcases bind_eq_error.1 failed with unread | ⟨tokens, read, failed⟩
  · obtain ⟨error, unread, same⟩ := mapError_eq_error.1 unread
    exact .inl ⟨error, unread, same.symm⟩
  · refine .inr ⟨tokens, mapError_eq_ok.1 read, ?_⟩
    rcases bind_eq_error.1 failed with unlisted | ⟨listing, listed, failed⟩
    · obtain ⟨error, unlisted, same⟩ := mapError_eq_error.1 unlisted
      exact .inl ⟨error, unlisted, same.symm⟩
    · obtain ⟨error, failed, same⟩ := mapError_eq_error.1 failed
      exact .inr ⟨listing, error, mapError_eq_ok.1 listed, failed, same.symm⟩

end Reckon

namespace Limits

variable {limits : Limits} {expression : String}

theorem evaluate_of_long (long : limits.maxInputLen < expression.utf8ByteSize) :
    limits.evaluate expression =
      .error (.parse (.inputTooLong expression.utf8ByteSize limits.maxInputLen)) := by
  simp only [evaluate, trace, long, if_true]

theorem evaluate_of_short (short : expression.utf8ByteSize ≤ limits.maxInputLen) :
    limits.evaluate expression = reckonTokens limits.maxNestingDepth (tokenize expression) := by
  simp only [evaluate, trace, Nat.not_lt.2 short, if_false, Trace.ofSource]
  cases tokenize expression with
  | error failure => rfl
  | ok tokens =>
    simp only [Trace.ofTokens, reckonTokens, Except.mapError, Except.bind]
    cases ofTokens limits.maxNestingDepth tokens <;> rfl

theorem evaluate_eq_ok {value : Float} (reckoned : limits.evaluate expression = .ok value) :
    ∃ tokens listing, tokenize expression = .ok tokens ∧
      ofTokens limits.maxNestingDepth tokens = .ok listing ∧
        Postfix.evaluate listing = .ok value := by
  rcases Nat.lt_or_ge limits.maxInputLen expression.utf8ByteSize with long | short
  · rw [evaluate_of_long long] at reckoned
    cases reckoned
  · rw [evaluate_of_short short, reckonTokens] at reckoned
    obtain ⟨tokens, read, reckoned⟩ := bind_eq_ok.1 reckoned
    obtain ⟨listing, listed, result⟩ := bind_eq_ok.1 reckoned
    exact ⟨tokens, listing, mapError_eq_ok.1 read, mapError_eq_ok.1 listed, mapError_eq_ok.1 result⟩

theorem evaluate_eq_error {failure : Failure} (failed : limits.evaluate expression = .error failure) :
    failure = .parse (.inputTooLong expression.utf8ByteSize limits.maxInputLen) ∨
      (∃ error, tokenize expression = .error error ∧ failure = .parse error) ∨
      ∃ tokens, tokenize expression = .ok tokens ∧
        ((∃ error, ofTokens limits.maxNestingDepth tokens = .error error ∧
            failure = .parse error) ∨
          ∃ listing error, ofTokens limits.maxNestingDepth tokens = .ok listing ∧
            Postfix.evaluate listing = .error error ∧ failure = .eval error) := by
  rcases Nat.lt_or_ge limits.maxInputLen expression.utf8ByteSize with long | short
  · rw [evaluate_of_long long] at failed
    exact .inl (Except.error.inj failed).symm
  · rw [evaluate_of_short short] at failed
    exact .inr (reckonTokens_eq_error failed)

end Limits

end Reckon
