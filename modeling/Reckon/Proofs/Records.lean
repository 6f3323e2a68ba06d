import Reckon.Proofs.Blame
import Reckon.Proofs.Printing

/-! What is recorded of a text. Main statement: there is one record for every stage that the text passes
and one for its failure, and none holds a control character, whatever the text holds. -/

namespace Reckon

open Text (Clean clean_append clean_toString isControl)

def EvalError.shownSymbol? : EvalError → Option Char
  | insufficientOperands op _ => some op
  | unsupportedOperator op _ => some op
  | _ => none

section Messages

theorem ParseError.clean_message (error : ParseError) : Clean error.message.toList := by
  unfold message
  cases error <;> simp only [String.toList_append, clean_append]
  case invalidCharacter found span =>
    exact ⟨⟨⟨by decide, Text.clean_quoteChar found⟩, by decide⟩, clean_toString span.start⟩
  case unbalancedParentheses span => exact ⟨by decide, clean_toString span.start⟩
  case numberOutOfRange span => exact ⟨⟨by decide, clean_toString span.start⟩, by decide⟩
  case nestingTooDeep max span =>
    exact ⟨⟨⟨by decide, clean_toString max⟩, by decide⟩, clean_toString span.start⟩
  case inputTooLong length max =>
    exact ⟨⟨⟨by decide, clean_toString length⟩, by decide⟩, clean_toString max⟩

theorem clean_symbol {sym : Char} (visible : isControl sym = false) : Clean (toString sym).toList := by
  simp [toString, visible]

theorem EvalError.clean_message {error : EvalError}
    (visible : ∀ sym ∈ error.shownSymbol?, isControl sym = false) : Clean error.message.toList := by
  unfold message
  cases error <;> simp only [String.toList_append, clean_append]
  case insufficientOperands op span =>
    have symbol := clean_symbol (visible op rfl)
    exact ⟨⟨⟨⟨by decide, symbol⟩, by decide⟩, clean_toString span.start⟩, by decide⟩
  case divisionByZero span => exact ⟨by decide, clean_toString span.start⟩
  case unsupportedOperator op span =>
    have symbol := clean_symbol (visible op rfl)
    exact ⟨⟨⟨by decide, symbol⟩, by decide⟩, clean_toString span.start⟩
  case malformedExpression values => exact ⟨⟨by decide, clean_toString values⟩, by decide⟩
  case strayParenthesis span => exact ⟨⟨by decide, clean_toString span.start⟩, by decide⟩

theorem isControl_of_isOperator {sym : Char} (known : isOperator sym = true) :
    isControl sym = false := by
  rcases Operator.sym_of_isOperator known with rfl | rfl | rfl | rfl | rfl <;> rfl

theorem clean_failureMessage {limits : Limits} {expression : String} {failure : Failure}
    (failed : limits.evaluate expression = .error failure) : Clean failure.message.toList := by
  cases failure with
  | parse error => exact error.clean_message
  | eval error =>
    refine EvalError.clean_message ?_
    intro sym shown
    rcases evaluate_pointsAt failed with
      ⟨span, piece, _, _, _, spells⟩ | ⟨length, max, other⟩ | ⟨count, same⟩
    · cases error with
      | insufficientOperands op place =>
        rw [← Option.some_inj.1 shown]
        exact isControl_of_isOperator spells.2
      | unsupportedOperator op place => exact spells.elim
      | divisionByZero place => cases shown
      | malformedExpression values => cases shown
      | strayParenthesis place => cases shown
    · cases other
    · cases same
      cases shown

end Messages

section Tokens

theorem Token.clean_text (token : Token) : Clean token.text.toList := by
  cases token with
  | num value =>
    simp only [text, String.toList_append, clean_append]
    exact ⟨⟨by decide, Layout.clean_text _ value⟩, by decide⟩
  | op sym =>
    simp only [text, String.toList_append, clean_append]
    exact ⟨⟨by decide, Text.clean_quoteChar sym⟩, by decide⟩
  | paren side => cases side <;> decide

theorem clean_locatedText (token : Located Token) : Clean (locatedText token).toList := by
  unfold locatedText Span.text
  simp only [String.toList_append, clean_append]
  exact ⟨⟨⟨⟨by decide, token.elem.clean_text⟩, by decide⟩,
    ⟨clean_toString _, by decide⟩, clean_toString _⟩, by decide⟩

theorem clean_tokensText (tokens : Tokens) : Clean (tokensText tokens).toList := by
  have items : Clean (", ".intercalate (tokens.map locatedText)).toList := by
    induction tokens with
    | nil => simp
    | cons token rest ih =>
      cases rest with
      | nil => simpa using clean_locatedText token
      | cons next rest =>
        rw [List.map_cons, List.map_cons, String.intercalate_cons_cons]
        simp only [String.toList_append, clean_append]
        exact ⟨⟨clean_locatedText token, by decide⟩, ih⟩
  unfold tokensText
  simp only [String.toList_append, clean_append]
  exact ⟨⟨by decide, items⟩, by decide⟩

end Tokens

def Limits.Reads (limits : Limits) (expression : String) (tokens : Tokens) : Prop :=
  expression.utf8ByteSize ≤ limits.maxInputLen ∧ tokenize expression = .ok tokens

/-- The four ways in which a text is recorded, by the last stage that it passes. -/
inductive Logs (limits : Limits) (expression : String) : List Record → Prop
  | unread {failure : Failure} (unread : ∀ tokens, ¬limits.Reads expression tokens)
      (failed : limits.evaluate expression = .error failure) :
      Logs limits expression
        [⟨.debug, "evaluation of " ++ Text.quoteString expression ++ " failed: " ++ failure.message⟩]
  | unlisted {tokens : Tokens} {failure : Failure} (read : limits.Reads expression tokens)
      (unlisted : ∀ listing, Postfix.ofTokens limits.maxNestingDepth tokens ≠ .ok listing)
      (failed : limits.evaluate expression = .error failure) :
      Logs limits expression
        [⟨.trace, "tokens: " ++ tokensText tokens⟩,
          ⟨.debug, "evaluation of " ++ Text.quoteString expression ++ " failed: " ++ failure.message⟩]
  | unreckoned {tokens listing : Tokens} {failure : Failure} (read : limits.Reads expression tokens)
      (listed : Postfix.ofTokens limits.maxNestingDepth tokens = .ok listing)
      (failed : limits.evaluate expression = .error failure) :
      Logs limits expression
        [⟨.trace, "tokens: " ++ tokensText tokens⟩, ⟨.trace, "postfix: " ++ tokensText listing⟩,
          ⟨.debug, "evaluation of " ++ Text.quoteString expression ++ " failed: " ++ failure.message⟩]
  | reckoned {tokens listing : Tokens} {value : Float} (read : limits.Reads expression tokens)
      (listed : Postfix.ofTokens limits.maxNestingDepth tokens = .ok listing)
      (reckoned : limits.evaluate expression = .ok value) :
      Logs limits expression
        [⟨.trace, "tokens: " ++ tokensText tokens⟩, ⟨.trace, "postfix: " ++ tokensText listing⟩,
          ⟨.trace, "result: " ++ Layout.result.text value⟩]

section Records

variable {limits : Limits} {expression : String}

theorem Limits.records_of_trace {trace : Trace} (traced : limits.trace expression = trace) :
    limits.records expression = (trace.tokens?.map Record.ofTokens).toList ++
        (trace.listing?.map Record.ofListing).toList ++ [Record.ofOutcome expression trace.outcome] ∧
      limits.evaluate expression = trace.outcome := by
  rw [← traced]
  exact ⟨rfl, rfl⟩

theorem Limits.Reads.trace_eq {tokens : Tokens} (read : limits.Reads expression tokens) :
    limits.trace expression = Trace.ofTokens limits.maxNestingDepth tokens := by
  rw [Limits.trace, if_neg (Nat.not_lt_of_le read.1), Trace.ofSource, read.2]

theorem logs_of_unread {error : ParseError} (unread : ∀ tokens, ¬limits.Reads expression tokens)
    (traced : limits.trace expression = ⟨none, none, .error (.parse error)⟩) :
    Logs limits expression (limits.records expression) := by
  obtain ⟨records, failed⟩ := Limits.records_of_trace traced
  rw [records]
  exact .unread unread failed

theorem logs_of_listing {tokens listing : Tokens} (read : limits.Reads expression tokens)
    (listed : Postfix.ofTokens limits.maxNestingDepth tokens = .ok listing) :
    Logs limits expression (limits.records expression) := by
  have traced : limits.trace expression = Trace.ofListing tokens listing := by
    rw [read.trace_eq, Trace.ofTokens, listed]
  rw [Trace.ofListing] at traced
  cases result : Postfix.evaluate listing with
  | error error =>
    rw [result] at traced
    obtain ⟨records, failed⟩ := Limits.records_of_trace traced
    rw [records]
    exact .unreckoned read listed failed
  | ok value =>
    rw [result] at traced
    obtain ⟨records, reckoned⟩ := Limits.records_of_trace traced
    rw [records]
    exact .reckoned read listed reckoned

theorem logs_of_tokens {tokens : Tokens} (read : limits.Reads expression tokens) :
    Logs limits expression (limits.records expression) := by
  cases listed : Postfix.ofTokens limits.maxNestingDepth tokens with
  | ok listing => exact logs_of_listing read listed
  | error error =>
    have traced := read.trace_eq
    rw [Trace.ofTokens, listed] at traced
    obtain ⟨records, failed⟩ := Limits.records_of_trace traced
    rw [records]
    refine .unlisted read ?_ failed
    intro listing lists
    cases listed.symm.trans lists

variable (limits expression)

theorem logs_records : Logs limits expression (limits.records expression) := by
  rcases Nat.lt_or_ge limits.maxInputLen expression.utf8ByteSize with long | short
  · refine logs_of_unread ?_ (if_pos long)
    intro tokens reads
    exact Nat.not_le_of_lt long reads.1
  · cases read : tokenize expression with
    | ok tokens => exact logs_of_tokens ⟨short, read⟩
    | error error =>
      have traced : limits.trace expression = ⟨none, none, .error (.parse error)⟩ := by
        rw [Limits.trace, if_neg (Nat.not_lt_of_le short), Trace.ofSource, read]
      refine logs_of_unread ?_ traced
      intro tokens reads
      cases read.symm.trans reads.2

variable {limits expression}

theorem Logs.clean {records : List Record} (logs : Logs limits expression records) :
    ∀ record ∈ records, Clean record.message.toList := by
  have labelled {label text : String} (labelClean : Clean label.toList) (clean : Clean text.toList) :
      Clean (label ++ text).toList := by
    rw [String.toList_append]
    exact clean_append.2 ⟨labelClean, clean⟩
  have tokensClean (tokens : Tokens) : Clean ("tokens: " ++ tokensText tokens).toList :=
    labelled (by decide) (clean_tokensText tokens)
  have listingClean (listing : Tokens) : Clean ("postfix: " ++ tokensText listing).toList :=
    labelled (by decide) (clean_tokensText listing)
  have failureClean {failure : Failure} (failed : limits.evaluate expression = .error failure) :
      Clean ("evaluation of " ++ Text.quoteString expression ++ " failed: " ++
        failure.message).toList := by
    refine labelled ?_ (clean_failureMessage failed)
    simp only [String.toList_append, clean_append]
    exact ⟨⟨by decide, Text.clean_quoteString expression⟩, by decide⟩
  cases logs <;> simp only [List.forall_mem_cons, List.not_mem_nil, false_implies, implies_true]
  case unread failure _ failed => exact ⟨failureClean failed, trivial⟩
  case unlisted tokens failure _ _ failed => exact ⟨tokensClean tokens, failureClean failed, trivial⟩
  case unreckoned tokens listing failure _ _ failed =>
    exact ⟨tokensClean tokens, listingClean listing, failureClean failed, trivial⟩
  case reckoned tokens listing value _ _ _ =>
    have valueClean : Clean ("result: " ++ Layout.result.text value).toList :=
      labelled (by decide) (Layout.clean_text _ value)
    exact ⟨tokensClean tokens, listingClean listing, valueClean, trivial⟩

end Records

/-- A text is recorded by the stages that it passes and by its failure if it fails, and it cannot bring a
control character into any record. -/
theorem records_unforgeable (limits : Limits) (expression : String) :
    Logs limits expression (limits.records expression) ∧
      ∀ record ∈ limits.records expression, Clean record.message.toList :=
  ⟨logs_records limits expression, (logs_records limits expression).clean⟩

/-- Neither the escape character nor the line end gets through, from the text or as the character that is
blamed. -/
theorem records_unforgeable_escape_character :
    let record : Record :=
      ⟨.debug, "evaluation of \"2+\\u\x7b1b\x7d[0m\\n\" failed: invalid character " ++
        "'\\u\x7b1b\x7d' at offset 2"⟩
    ({} : Limits).records "2+\x1b[0m\n" = [record] ∧ Clean record.message.toList := by
  intro record
  have recorded : ({} : Limits).records "2+\x1b[0m\n" = [record] := by decide +kernel
  obtain ⟨_, clean⟩ := records_unforgeable {} "2+\x1b[0m\n"
  refine ⟨recorded, clean record ?_⟩
  rw [recorded]
  exact List.mem_singleton_self record

end Reckon
