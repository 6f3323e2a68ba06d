import Reckon.Proofs.Balance
import Reckon.Proofs.Pipeline
import Reckon.Proofs.Reckoning

/-! Rows of tokens in parentheses. Main statements: within parentheses a row is listed as it is by itself,
whatever is listed and waits outside, a listing has its numbers in the order of the row, and a row with a
value may stand for a number. -/

namespace Reckon

def enclosed (opening closing : Span) (inner : Tokens) : Tokens :=
  ⟨.paren .opening, opening⟩ :: (inner ++ [⟨.paren .closing, closing⟩])

theorem deepest_enclosed_le {maxDepth : Nat} {front inner back : Tokens} {opening closing : Span}
    (shallow : Paren.deepest 0 (parens (front ++ (enclosed opening closing inner ++ back))) ≤
      maxDepth) :
    Paren.deepest (Paren.openBehind 0 (parens front) + 1) (parens inner) ≤ maxDepth := by
  rw [parens_append, Paren.deepest_append, parens_append] at shallow
  have behind := (Nat.max_le.1 shallow).2
  rw [Paren.deepest_append] at behind
  have group : Paren.deepest (Paren.openBehind 0 (parens front) + 1)
      (parens (inner ++ [⟨.paren .closing, closing⟩])) ≤ maxDepth := (Nat.max_le.1 behind).1
  rw [parens_append, Paren.deepest_append] at group
  exact (Nat.max_le.1 group).1

def onlyNumbers (tokens : Tokens) : Tokens := tokens.filter (·.elem.isNum)

theorem onlyNumbers_append (first second : Tokens) :
    onlyNumbers (first ++ second) = onlyNumbers first ++ onlyNumbers second :=
  List.filter_append ..

theorem onlyNumbers_cons (token : Located Token) (rest : Tokens) :
    onlyNumbers (token :: rest) = onlyNumbers [token] ++ onlyNumbers rest :=
  onlyNumbers_append [token] rest

theorem onlyNumbers_of_isOp {tokens : Tokens}
    (operators : ∀ token ∈ tokens, token.elem.isOp = true) : onlyNumbers tokens = [] := by
  rw [onlyNumbers, List.filter_eq_nil_iff]
  intro token member
  obtain ⟨sym, op⟩ := Token.exists_of_isOp (operators token member)
  rw [op]
  exact Bool.false_ne_true

theorem deepest_le_of_checkParens {maxDepth : Nat} {opened : List Span} {tokens : Tokens}
    (room : opened.length ≤ maxDepth) (balanced : checkParens maxDepth opened tokens = .ok ()) :
    Paren.deepest opened.length (parens tokens) ≤ maxDepth := by
  induction tokens generalizing opened with
  | nil => exact room
  | cons token rest ih =>
    obtain ⟨elem, span⟩ := token
    match elem, opened with
    | .num value, opened => exact ih room balanced
    | .op sym, opened => exact ih room balanced
    | .paren .opening, opened =>
      rcases Nat.lt_or_ge opened.length maxDepth with less | full
      · have inside : (span :: opened).length ≤ maxDepth := less
        exact ih inside (checkParens_opening_ok balanced)
      · rw [checkParens_full full] at balanced
        cases balanced
    | .paren .closing, [] =>
      rw [checkParens_alone] at balanced
      cases balanced
    | .paren .closing, innermost :: outer =>
      rw [checkParens_closing] at balanced
      have outerRoom : outer.length ≤ maxDepth := Nat.le_of_succ_le room
      exact Nat.max_le.2 ⟨room, ih outerRoom balanced⟩

namespace Postfix

namespace Conversion

section Listed

def listedAfter (conversion : Conversion) (earlier : Array (Located Token)) : Conversion :=
  ⟨earlier ++ conversion.listed, conversion.waiting, conversion.depth⟩

variable (earlier : Array (Located Token)) (conversion : Conversion)

theorem Moves.listedAfter {maxDepth : Nat} {before after : Conversion} {token : Located Token}
    (moves : Moves maxDepth before token after) :
    Moves maxDepth (before.listedAfter earlier) token (after.listedAfter earlier) := by
  cases moves with
  | lists value span =>
    simp only [Conversion.listedAfter, Array.append_push]
    exact .lists value span
  | waits span found carries holds =>
    simp only [Conversion.listedAfter, ← append_array_list]
    exact .waits span found carries holds
  | blocks span unknown => exact .blocks span unknown
  | opens span room => exact .opens span room
  | closes opening span inside =>
    simp only [Conversion.listedAfter, ← append_array_list]
    exact .closes opening span inside

theorem accept_listedAfter (maxDepth : Nat) (token : Located Token) :
    accept maxDepth (conversion.listedAfter earlier) token =
      (accept maxDepth conversion token).map fun next => next.listedAfter earlier := by
  rcases accept_cases maxDepth conversion token with
    ⟨after, moves⟩ | ⟨opening, full⟩ | ⟨closing, alone⟩
  · rw [moves.accept]
    exact (moves.listedAfter earlier).accept
  · rw [accept_of_full opening full]
    exact accept_of_full opening full
  · rw [accept_of_alone closing alone]
    exact accept_of_alone closing alone

theorem foldlM_listedAfter (maxDepth : Nat) (tokens : Tokens) :
    tokens.foldlM (accept maxDepth) (conversion.listedAfter earlier) =
      (tokens.foldlM (accept maxDepth) conversion).map fun last => last.listedAfter earlier := by
  induction tokens generalizing conversion with
  | nil => rfl
  | cons token rest ih =>
    rw [List.foldlM_cons, List.foldlM_cons, accept_listedAfter]
    cases accept maxDepth conversion token with
    | error failure => rfl
    | ok next => exact ih next

theorem finish_listedAfter :
    (conversion.listedAfter earlier).finish =
      conversion.finish.map fun listing => earlier.toList ++ listing := by
  obtain ⟨listed, waiting, depth⟩ := conversion
  simp only [finish, listedAfter]
  cases (waiting.popWhile notOpening).2.peek? with
  | none => simp only [Except.map, append_array_list, Array.toList_append]
  | some token => rfl

theorem foldlM_finish_listedAfter (maxDepth : Nat) (tokens : Tokens) :
    ((tokens.foldlM (accept maxDepth) (conversion.listedAfter earlier)).bind finish) =
      ((tokens.foldlM (accept maxDepth) conversion).bind finish).map fun listing =>
        earlier.toList ++ listing := by
  rw [foldlM_listedAfter]
  cases tokens.foldlM (accept maxDepth) conversion with
  | error failure => rfl
  | ok last => exact finish_listedAfter earlier last

end Listed

section Above

/-- A conversion that goes on above tokens that wait, with parentheses open among them. -/
def above (conversion : Conversion) (outer : Tokens) (opened : Nat) : Conversion :=
  ⟨conversion.listed, ⟨conversion.waiting.items ++ outer⟩, opened + conversion.depth⟩

variable {maxDepth greater opened : Nat} {outer : Tokens} {before after : Conversion}
  {token : Located Token}

theorem Moves.shallow (moves : Moves maxDepth before token after) (counts : Counts before)
    {rest : Tokens} (shallow : Paren.deepest (opened + before.depth) (parens (token :: rest)) ≤ greater) :
    (token.elem = .paren .opening → opened + before.depth < greater) ∧
      Paren.deepest (opened + after.depth) (parens rest) ≤ greater := by
  cases moves with
  | lists value span => exact ⟨nofun, shallow⟩
  | waits span found carries holds => exact ⟨nofun, shallow⟩
  | blocks span unknown => exact ⟨nofun, shallow⟩
  | @opens listed waiting depth span room =>
    have deeper : opened + depth + 1 ≤ greater := Nat.le_trans (Paren.le_deepest _ _) shallow
    exact ⟨fun _ => deeper, shallow⟩
  | @closes listed inner outside depth opening span inside =>
    have positive := counts.depth_eq_succ inside
    have later : Paren.deepest (opened + depth - 1) (parens rest) ≤ greater :=
      (Nat.max_le.1 shallow).2
    rw [Nat.add_sub_assoc (by omega)] at later
    exact ⟨nofun, later⟩

theorem Moves.above (moves : Moves maxDepth before token after) (counts : Counts before)
    (blocked : ∀ operator, Holds outer operator)
    (room : token.elem = .paren .opening → opened + before.depth < greater) :
    Moves greater (before.above outer opened) token (after.above outer opened) := by
  cases moves with
  | lists value span => exact .lists value span
  | @waits listed carried rest depth sym operator span found carries holds =>
    -- If nothing of what waited is left, the operator meets what waits outside.
    have stops : Holds (rest ++ outer) operator := by
      cases rest with
      | nil => exact blocked operator
      | cons top below => exact holds
    have moved : Moves greater ⟨listed, ⟨carried ++ (rest ++ outer)⟩, opened + depth⟩ ⟨.op sym, span⟩
        ⟨listed ++ carried, ⟨⟨.op sym, span⟩ :: (rest ++ outer)⟩, opened + depth⟩ :=
      .waits span found carries stops
    rw [← List.append_assoc] at moved
    exact moved
  | blocks span unknown => exact .blocks span unknown
  | opens span less => exact .opens span (room rfl)
  | @closes listed inner outside depth opening span inside =>
    have positive := counts.depth_eq_succ inside
    have moved : Moves greater
        ⟨listed, ⟨inner ++ ⟨.paren .opening, opening⟩ :: (outside ++ outer)⟩, opened + depth⟩
        ⟨.paren .closing, span⟩ ⟨listed ++ inner, ⟨outside ++ outer⟩, opened + depth - 1⟩ :=
      .closes opening span inside
    rw [Nat.add_sub_assoc (by omega), ← List.cons_append, ← List.append_assoc] at moved
    exact moved

theorem foldlM_above {tokens : Tokens} (run : tokens.foldlM (accept maxDepth) before = .ok after)
    (counts : Counts before) (blocked : ∀ operator, Holds outer operator)
    (shallow : Paren.deepest (opened + before.depth) (parens tokens) ≤ greater) :
    tokens.foldlM (accept greater) (before.above outer opened) =
      .ok (after.above outer opened) := by
  induction tokens generalizing before with
  | nil =>
    cases run
    rfl
  | cons token rest ih =>
    rw [List.foldlM_cons] at run
    obtain ⟨next, accepted, run⟩ := bind_eq_ok.1 run
    have moves := accept_eq_ok.1 accepted
    obtain ⟨room, later⟩ := moves.shallow counts shallow
    rw [foldlM_cons_of_ok (moves.above counts blocked room).accept]
    exact ih run (moves.checkParens counts rest).1 later

end Above

theorem foldlM_counts {maxDepth : Nat} {tokens : Tokens} {before after : Conversion}
    (counts : Counts before) (run : tokens.foldlM (accept maxDepth) before = .ok after) :
    Counts after := by
  have step {item : Located Token} {earlier later : Conversion} (counts : Counts earlier)
      (accepted : accept maxDepth earlier item = .ok later) : Counts later :=
    ((accept_eq_ok.1 accepted).checkParens counts []).1
  exact @foldlM_preserves _ _ _ _ (fun _ => Counts) step [] tokens _ _ counts run

def Reaches (read : Tokens) (conversion : Conversion) : Prop :=
  conversion.depth = Paren.openBehind 0 (parens read)

theorem Reaches.step {maxDepth : Nat} {read : Tokens} {before after : Conversion}
    {token : Located Token} (reaches : Reaches read before)
    (moves : Moves maxDepth before token after) : Reaches (read ++ [token]) after := by
  rw [Reaches, parens_append, Paren.openBehind_append, ← reaches]
  cases moves <;> rfl

theorem foldlM_reaches {maxDepth : Nat} {tokens : Tokens} {after : Conversion}
    (run : tokens.foldlM (accept maxDepth) .empty = .ok after) : Reaches tokens after := by
  have start : Reaches [] .empty := rfl
  exact foldlM_preserves (fun reaches accepted => reaches.step (accept_eq_ok.1 accepted)) start run

def ListsNumbers (read : Tokens) (conversion : Conversion) : Prop :=
  onlyNumbers conversion.listed.toList = onlyNumbers read

theorem ListsNumbers.step {maxDepth : Nat} {read : Tokens} {before after : Conversion}
    {token : Located Token} (inOrder : ListsNumbers read before) (keeps : Keeps read before)
    (moves : Moves maxDepth before token after) : ListsNumbers (read ++ [token]) after := by
  rw [ListsNumbers] at inOrder
  rw [ListsNumbers, onlyNumbers_append, ← inOrder]
  cases moves with
  | lists value span => rw [Array.toList_push, onlyNumbers_append]
  | @waits listed carried rest depth sym operator span found carries holds =>
    have none : onlyNumbers carried = [] := by
      apply onlyNumbers_of_isOp
      intro token member
      exact isOp_of_precedes (carries token member)
    rw [Array.toList_appendList, onlyNumbers_append, none]
    rfl
  | blocks span unknown => exact (List.append_nil _).symm
  | opens span room => exact (List.append_nil _).symm
  | closes opening span inside =>
    have operators := isOp_of_inside keeps.waits (fun _ => List.mem_append_left _) inside
    rw [Array.toList_appendList, onlyNumbers_append, onlyNumbers_of_isOp operators]
    rfl

theorem foldlM_listsNumbers {maxDepth : Nat} {tokens : Tokens} {after : Conversion}
    (run : tokens.foldlM (accept maxDepth) .empty = .ok after) : ListsNumbers tokens after := by
  have start : ListsNumbers [] .empty := rfl
  exact foldlM_moves start (fun keeps inOrder moves => inOrder.step keeps moves) run

theorem exists_run_of_listed {maxDepth : Nat} {tokens listing : Tokens}
    (listed : ofTokens maxDepth tokens = .ok listing) :
    ∃ done waiting, tokens.foldlM (accept maxDepth) .empty = .ok ⟨done, ⟨waiting⟩, 0⟩ ∧
      (∀ token ∈ waiting, notOpening token = true) ∧ listing = done.toList ++ waiting := by
  obtain ⟨⟨done, ⟨waiting⟩, depth⟩, run, finished⟩ := bind_eq_ok.1 listed
  rcases finish_cases ⟨done, ⟨waiting⟩, depth⟩ with ⟨closed, ok⟩ | ⟨_, _, _, _, _, error⟩
  · have start : Counts .empty := rfl
    have counts : depth = (openSpans waiting).length := foldlM_counts start run
    rw [openSpans_of_closed closed] at counts
    rw [ok] at finished
    cases finished
    cases counts
    exact ⟨done, waiting, run, closed, rfl⟩
  · rw [error] at finished
    cases finished

theorem foldlM_enclosed {maxDepth greater : Nat} {inner listing : Tokens}
    (listed : ofTokens maxDepth inner = .ok listing) (done : Array (Located Token))
    (outer : Tokens) {depth : Nat} (shallow : Paren.deepest (depth + 1) (parens inner) ≤ greater)
    (opening closing : Span) :
    (enclosed opening closing inner).foldlM (accept greater) ⟨done, ⟨outer⟩, depth⟩ =
      .ok ⟨done ++ listing, ⟨outer⟩, depth⟩ := by
  obtain ⟨innerDone, waiting, run, closed, rfl⟩ := exists_run_of_listed listed
  have room : depth < greater := Nat.lt_of_lt_of_le (Paren.le_deepest _ _) shallow
  have opened : accept greater ⟨done, ⟨outer⟩, depth⟩ ⟨.paren .opening, opening⟩ =
      .ok ⟨done, ⟨⟨.paren .opening, opening⟩ :: outer⟩, depth + 1⟩ :=
    opening_of_room room done outer _
  have blocked : ∀ operator, Holds (⟨.paren .opening, opening⟩ :: outer) operator := by
    intro operator token top
    cases top
    rfl
  have lifted := foldlM_above run rfl blocked shallow
  have within : inner.foldlM (accept greater)
      ⟨done, ⟨⟨.paren .opening, opening⟩ :: outer⟩, depth + 1⟩ =
        .ok ⟨done ++ innerDone, ⟨waiting ++ ⟨.paren .opening, opening⟩ :: outer⟩, depth + 1⟩ := by
    have after := foldlM_listedAfter done (above .empty (⟨.paren .opening, opening⟩ :: outer) (depth + 1))
      greater inner
    rw [lifted] at after
    simpa [listedAfter, above, empty, Stack.empty, Except.map] using after
  have closes : accept greater
      ⟨done ++ innerDone, ⟨waiting ++ ⟨.paren .opening, opening⟩ :: outer⟩, depth + 1⟩
        ⟨.paren .closing, closing⟩ =
          .ok ⟨done ++ (innerDone.toList ++ waiting), ⟨outer⟩, depth⟩ := by
    have joined : done ++ innerDone ++ waiting = done ++ (innerDone.toList ++ waiting) := by
      apply Array.toList_inj.1
      simp
    rw [← joined]
    exact closing_of_inside closed outer _ _ _ _
  rw [enclosed, foldlM_cons_of_ok opened, foldlM_append_of_ok within, foldlM_cons_of_ok closes]
  rfl

end Conversion

open Conversion (accept finish)

theorem ofTokens_append (maxDepth : Nat) (front back : Tokens) :
    ofTokens maxDepth (front ++ back) =
      (front.foldlM (accept maxDepth) .empty).bind fun conversion =>
        (back.foldlM (accept maxDepth) conversion).bind finish := by
  change ((front ++ back).foldlM (accept maxDepth) .empty).bind finish = _
  rw [List.foldlM_append]
  cases front.foldlM (accept maxDepth) .empty <;> rfl

theorem onlyNumbers_of_listed {maxDepth : Nat} {tokens listing : Tokens}
    (listed : ofTokens maxDepth tokens = .ok listing) : onlyNumbers listing = onlyNumbers tokens := by
  obtain ⟨done, waiting, run, closed, rfl⟩ := Conversion.exists_run_of_listed listed
  have keeps := Conversion.foldlM_keeps run
  have operators := Conversion.isOp_of_inside keeps.waits (fun _ member => member) closed
  have inOrder : onlyNumbers done.toList = onlyNumbers tokens := Conversion.foldlM_listsNumbers run
  rw [onlyNumbers_append, onlyNumbers_of_isOp operators, List.append_nil, inOrder]

/-- A row in parentheses is listed in the place of a number as it is listed by itself. Where the row with
the number has no listing, the other one fails alike. -/
theorem ofTokens_enclosed {maxDepth greater : Nat} {front inner listing : Tokens}
    (listed : ofTokens maxDepth inner = .ok listing)
    (shallow : Paren.deepest (Paren.openBehind 0 (parens front) + 1) (parens inner) ≤ greater)
    (opening closing : Span) (number : Float) (place : Span) (back : Tokens) :
    (∃ failure, ofTokens greater (front ++ ⟨.num number, place⟩ :: back) = .error failure ∧
      ofTokens greater (front ++ (enclosed opening closing inner ++ back)) = .error failure) ∨
    ∃ before behind,
      ofTokens greater (front ++ ⟨.num number, place⟩ :: back) =
        .ok (before ++ ⟨.num number, place⟩ :: behind) ∧
      onlyNumbers before = onlyNumbers front ∧
      ofTokens greater (front ++ (enclosed opening closing inner ++ back)) =
        .ok (before ++ listing ++ behind) := by
  cases frontRun : front.foldlM (accept greater) .empty with
  | error failure =>
    have fails (tokens : Tokens) : ofTokens greater (front ++ tokens) = .error failure := by
      rw [ofTokens_append, frontRun]
      rfl
    exact .inl ⟨failure, fails _, fails _⟩
  | ok conversion =>
    obtain ⟨done, ⟨outer⟩, depth⟩ := conversion
    have goesOn (tokens : Tokens) : ofTokens greater (front ++ tokens) =
        (tokens.foldlM (accept greater) ⟨done, ⟨outer⟩, depth⟩).bind finish := by
      rw [ofTokens_append, frontRun]
      rfl
    have depthBehind : depth = Paren.openBehind 0 (parens front) :=
      Conversion.foldlM_reaches frontRun
    rw [← depthBehind] at shallow
    have group := Conversion.foldlM_enclosed listed done outer shallow opening closing
    -- Behind the number and behind the group the run goes on in one state, but for what is listed.
    have later (earlier : Array (Located Token)) :
        (back.foldlM (accept greater) ⟨earlier, ⟨outer⟩, depth⟩).bind finish =
          ((back.foldlM (accept greater) ⟨#[], ⟨outer⟩, depth⟩).bind finish).map fun behind =>
            earlier.toList ++ behind :=
      Conversion.foldlM_finish_listedAfter earlier ⟨#[], ⟨outer⟩, depth⟩ greater back
    have withNumber : ((⟨.num number, place⟩ :: back).foldlM (accept greater)
        ⟨done, ⟨outer⟩, depth⟩).bind finish =
          ((back.foldlM (accept greater) ⟨#[], ⟨outer⟩, depth⟩).bind finish).map fun behind =>
            done.toList ++ ⟨.num number, place⟩ :: behind := by
      have step : accept greater ⟨done, ⟨outer⟩, depth⟩ ⟨.num number, place⟩ =
          .ok ⟨done.push ⟨.num number, place⟩, ⟨outer⟩, depth⟩ := rfl
      rw [foldlM_cons_of_ok step, later]
      simp
    have withGroup : ((enclosed opening closing inner ++ back).foldlM (accept greater)
        ⟨done, ⟨outer⟩, depth⟩).bind finish =
          ((back.foldlM (accept greater) ⟨#[], ⟨outer⟩, depth⟩).bind finish).map fun behind =>
            done.toList ++ listing ++ behind := by
      rw [foldlM_append_of_ok group, later]
      simp
    rw [goesOn, goesOn, withNumber, withGroup]
    cases (back.foldlM (accept greater) ⟨#[], ⟨outer⟩, depth⟩).bind finish with
    | error failure => exact .inl ⟨failure, rfl, rfl⟩
    | ok behind => exact .inr ⟨done.toList, behind, rfl, Conversion.foldlM_listsNumbers frontRun, rfl⟩

end Postfix

theorem reckonTokens_enclosed {maxDepth greater : Nat} {front inner listing : Tokens} {number : Float}
    (listed : Postfix.ofTokens maxDepth inner = .ok listing)
    (valued : Postfix.evaluate listing = .ok number)
    (shallow : Paren.deepest (Paren.openBehind 0 (parens front) + 1) (parens inner) ≤ greater)
    (opening closing place : Span) (back : Tokens) :
    reckonTokens greater (.ok (front ++ (enclosed opening closing inner ++ back))) =
      reckonTokens greater (.ok (front ++ ⟨.num number, place⟩ :: back)) := by
  rcases Postfix.ofTokens_enclosed listed shallow opening closing number place back with
    ⟨failure, withNumber, withGroup⟩ | ⟨before, behind, withNumber, _, withGroup⟩
  · rw [reckonTokens_of_unlisted withNumber, reckonTokens_of_unlisted withGroup]
  · rw [reckonTokens_of_listed withNumber, reckonTokens_of_listed withGroup,
      Postfix.evaluate_of_part valued place]

end Reckon
