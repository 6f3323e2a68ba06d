import Reckon.Decimal.RoundTrip
import Reckon.Proofs.Grammar

/-! Results put back into texts. Main statement: in a text that follows the grammar a group may be
replaced by the text of its value. -/

namespace Reckon

open Postfix (ofTokens)
open Text (Slices chars located marks)

structure Context where
  before : String
  after : String

def Context.fill (context : Context) (piece : String) : String :=
  context.before ++ piece ++ context.after

/-- A division of the context, in its place when either of two pieces fills the gap. -/
def Context.SameDivision (context : Context) (piece other : String) (place otherPlace : Span) : Prop :=
  (Slices context.before place ['/'] ∧ otherPlace = place) ∨
    ∃ span, Slices context.after span ['/'] ∧
      place = (Relocation.shift (context.before.utf8ByteSize + piece.utf8ByteSize)).span span ∧
        otherPlace = (Relocation.shift (context.before.utf8ByteSize + other.utf8ByteSize)).span span

theorem Tokenizes.result {value : Float} (finite : value.isFinite = true) (offset : Nat)
    {tail : List (Located Char)} {others : Tokens}
    (ends : ∀ mark ∈ tail.head?, numericMark mark = false) (rest : Tokenizes true tail others) :
    Tokenizes false (marks offset (Layout.result.text value).toList ++ tail)
      (⟨.num value, ⟨offset, offset + (Layout.result.text value).utf8ByteSize⟩⟩ :: others) := by
  have spelled := Layout.read?_text (Binary64.magnitude_lt_of_isFinite finite)
  have numeral := Decimal.isNumeral_of_read? spelled
  rw [← Text.byteLength_toList]
  cases text : (Layout.result.text value).toList with
  | nil =>
    rw [text] at numeral
    cases numeral
  | cons c more =>
    rw [text] at spelled numeral
    have written : chars (located offset (c :: more)) = c :: more := Text.chars_located _ _
    rw [located] at written
    rw [← written] at spelled numeral
    have accepted := Lexeme.isAccepted_of_isNumeral numeral
    have whole : marks offset (c :: more) = located offset (c :: more) := by
      rw [marks, List.filter_eq_self]
      intro mark member
      rw [isBlank_of_isAccepted (accepted mark member)]
      rfl
    have literal := Tokenizes.literal numeral spelled finite ends rest
    rw [cover_located] at literal
    rw [whole]
    exact literal

namespace Context

variable {context : Context}

theorem marks_fill (piece : String) : marks 0 (context.fill piece).toList =
    marks 0 context.before.toList ++ (marks context.before.utf8ByteSize piece.toList ++
      (marks 0 context.after.toList).map
        (Relocation.shift (context.before.utf8ByteSize + piece.utf8ByteSize)).item) := by
  rw [fill, String.toList_append, String.toList_append, List.append_assoc, Text.marks_append,
    Text.marks_append, Text.byteLength_toList, Text.byteLength_toList, Nat.zero_add,
    Text.marks_shift (_ + _)]

/-- What a group in a context is made of: the tokens before it, inside it and behind it. No literal can
run on over the seams. -/
structure Parts (context : Context) (group : String) (front inner back : Tokens) : Prop where
  before : Tokenizes false (marks 0 context.before.toList) front
  expects : operandBehind false front = false
  within : Tokenizes false (marks 0 group.toList) inner
  behind : Tokenizes true (marks 0 context.after.toList) back
  ends : ∀ mark ∈ (marks 0 context.after.toList).head?, numericMark mark = false

theorem expects_of_noGaps {afterOperand : Bool} {opening closing : Span} {inside behind : Tokens}
    (noGaps : gaps afterOperand (enclosed opening closing inside ++ behind) = 0) :
    afterOperand = false ∧ gaps true behind = 0 := by
  rw [enclosed, List.cons_append, gaps, gaps_append] at noGaps
  obtain ⟨here, later⟩ := Nat.add_eq_zero_iff.1 noGaps
  have closed : operandBehind (Token.endsOperand (.paren .opening))
      (inside ++ [⟨.paren .closing, closing⟩]) = true := by
    rw [operandBehind, List.foldl_append]
    rfl
  rw [closed] at later
  refine ⟨?_, (Nat.add_eq_zero_iff.1 later).2⟩
  cases afterOperand with
  | false => rfl
  | true => cases here

theorem exists_parts {group : String} {tokens : Tokens}
    (tokenizes : Tokenizes false (marks 0 (context.fill ("(" ++ group ++ ")")).toList) tokens)
    (noGaps : gaps false tokens = 0) :
    ∃ front inner back opening closing, context.Parts group front inner back ∧
      tokens = front ++ (enclosed opening closing
          (inner.map (Relocation.shift (context.before.utf8ByteSize + 1)).item) ++
        back.map (Relocation.shift
          (context.before.utf8ByteSize + ("(" ++ group ++ ")").utf8ByteSize)).item) := by
  rw [marks_fill, Text.marks_group, List.cons_append, List.append_assoc, List.singleton_append]
    at tokenizes
  obtain ⟨front, rest, rfl, frontTokens, restTokens⟩ :=
    tokenizes.exists_append (by simp [numericMark, isNumeric])
  obtain ⟨inside, behind, rfl, insideTokens, behindTokens⟩ := tokenizes_group.1 restTokens
  rw [gaps_append] at noGaps
  obtain ⟨expects, noGapBehind⟩ := expects_of_noGaps (Nat.add_eq_zero_iff.1 noGaps).2
  have ends := behindTokens.ends_of_noGaps noGapBehind
  obtain ⟨inner, rfl, innerTokens⟩ := insideTokens.exists_relocate
  obtain ⟨back, rfl, backTokens⟩ := behindTokens.exists_relocate
  have ends := (Relocation.ends_iff _).1 ends
  exact ⟨front, inner, back, _, _, ⟨frontTokens, expects, innerTokens, backTokens, ends⟩, rfl⟩

def numberRow (front back : Tokens) (value : Float) (start stop : Nat) : Tokens :=
  front ++ ⟨.num value, ⟨start, stop⟩⟩ :: back.map (Relocation.shift stop).item

section Filled

variable {group : String} {front inner back : Tokens} {value : Float}

theorem Parts.tokenizes (parts : context.Parts group front inner back)
    (finite : value.isFinite = true) :
    Tokenizes false (marks 0 (context.fill (Layout.result.text value)).toList)
      (numberRow front back value context.before.utf8ByteSize
        (context.before.utf8ByteSize + (Layout.result.text value).utf8ByteSize)) := by
  have behind := parts.behind.relocate
    (Relocation.shift (context.before.utf8ByteSize + (Layout.result.text value).utf8ByteSize))
  have ends := (Relocation.ends_iff (Relocation.shift
    (context.before.utf8ByteSize + (Layout.result.text value).utf8ByteSize))).2 parts.ends
  have number := Tokenizes.result finite context.before.utf8ByteSize ends behind
  rw [← parts.expects] at number
  rw [marks_fill]
  exact parts.before.append number (.inl parts.expects)

theorem Parts.reckonTokens (parts : context.Parts group front inner back) {limits : Limits}
    {maxDepth stop : Nat} {opening closing : Span} (valued : limits.evaluate group = .ok value)
    (shallow : Paren.deepest 0 (parens (front ++ (enclosed opening closing
      (inner.map (Relocation.shift (context.before.utf8ByteSize + 1)).item) ++
        back.map (Relocation.shift stop).item))) ≤ maxDepth) :
    reckonTokens maxDepth (.ok (front ++ (enclosed opening closing
      (inner.map (Relocation.shift (context.before.utf8ByteSize + 1)).item) ++
        back.map (Relocation.shift stop).item))) =
      reckonTokens maxDepth (.ok (numberRow front back value context.before.utf8ByteSize stop)) := by
  obtain ⟨tokens, listing, read, listed, result⟩ := Limits.evaluate_eq_ok valued
  have same : inner = tokens := Except.ok.inj ((tokenizes_iff.2 parts.within).symm.trans read)
  subst same
  have moved : Postfix.evaluate (listing.map
      (Relocation.shift (context.before.utf8ByteSize + 1)).item) = .ok value := by
    rw [Relocation.evaluate_item, result]
    rfl
  exact reckonTokens_enclosed (Relocation.ofTokens_item_of_ok _ listed) moved
    (deepest_enclosed_le shallow) opening closing _ _

end Filled

end Context

/-- Where the places of a text are when what reaches from `start` to `stop` in it reaches to `newStop`. -/
def Relocation.resize (start stop newStop : Nat) : Relocation :=
  ⟨fun place => if place ≤ start then place else place - stop + newStop,
    fun place => if place ≤ start then place else place - stop + newStop⟩

namespace Relocation

variable {start stop newStop : Nat} {span : Span}

theorem resize_before (startLe : span.start ≤ start) (stopLe : span.stop ≤ start) :
    (resize start stop newStop).span span = span := by
  simp only [Relocation.span, resize, if_pos startLe, if_pos stopLe]

theorem resize_behind (forward : start < stop) (span : Span) :
    (resize start stop newStop).span ((shift stop).span span) = (shift newStop).span span := by
  have behind (place : Nat) : ¬place + stop ≤ start := by omega
  simp only [Relocation.span, resize, shift, if_neg (behind _), Nat.add_sub_cancel]

theorem map_resize {front back : Tokens} {value : Float} (forward : start < stop)
    (before : ∀ token ∈ front, token.span.start ≤ start ∧ token.span.stop ≤ start) :
    (Context.numberRow front back value start stop).map (resize start stop newStop).item =
      Context.numberRow front back value start newStop := by
  have stays : ∀ token ∈ front, (resize start stop newStop).item token = id token := by
    intro token member
    obtain ⟨startLe, stopLe⟩ := before token member
    rw [item, resize_before startLe stopLe, id]
  have grows : (resize start stop newStop).span ⟨start, stop⟩ = ⟨start, newStop⟩ := by
    simp [Relocation.span, resize, Nat.not_le_of_lt forward]
  have moves : (back.map (shift stop).item).map (resize start stop newStop).item =
      back.map (shift newStop).item := by
    rw [List.map_map]
    apply List.map_congr_left
    intro token _
    rw [Function.comp_apply, item, item, resize_behind forward, item]
  rw [Context.numberRow, List.map_append, List.map_cons, List.map_congr_left stays, List.map_id,
    moves, item, grows]
  rfl

end Relocation

section Substitution

variable {limits inner : Limits} {context : Context} {group : String} {value : Float}

def Context.afterResult (context : Context) (group : String) (value : Float) : Relocation :=
  .resize context.before.utf8ByteSize
    (context.before.utf8ByteSize + ("(" ++ group ++ ")").utf8ByteSize)
    (context.before.utf8ByteSize + (Layout.result.text value).utf8ByteSize)

theorem Context.forward (context : Context) (group : String) : context.before.utf8ByteSize <
    context.before.utf8ByteSize + ("(" ++ group ++ ")").utf8ByteSize := by
  rw [Text.utf8ByteSize_group]
  omega

theorem evaluate_fill (wellFormed : WellFormed (context.fill ("(" ++ group ++ ")")))
    (valued : inner.evaluate group = .ok value) (finite : value.isFinite = true)
    (groupFits : limits.Admits (context.fill ("(" ++ group ++ ")")))
    (resultFits : limits.Admits (context.fill (Layout.result.text value))) :
    ∃ front within back, context.Parts group front within back ∧
      limits.evaluate (context.fill ("(" ++ group ++ ")")) =
        reckonTokens limits.maxNestingDepth (.ok (Context.numberRow front back value
          context.before.utf8ByteSize
          (context.before.utf8ByteSize + ("(" ++ group ++ ")").utf8ByteSize))) ∧
      limits.evaluate (context.fill (Layout.result.text value)) =
        (limits.evaluate (context.fill ("(" ++ group ++ ")"))).mapError
          (context.afterResult group value).failure := by
  obtain ⟨tokens, tokenizes, derives⟩ := wellFormed.tokenizes
  have turns := (derives.gaps_append []).1
  rw [List.append_nil] at turns
  obtain ⟨front, within, back, opening, closing, parts, rfl⟩ := context.exists_parts tokenizes turns
  have shallow := groupFits.shallow
  rw [← tokenizes.parens_eq] at shallow
  have withGroup : limits.evaluate (context.fill ("(" ++ group ++ ")")) =
      reckonTokens limits.maxNestingDepth (.ok (Context.numberRow front back value
        context.before.utf8ByteSize
        (context.before.utf8ByteSize + ("(" ++ group ++ ")").utf8ByteSize))) := by
    rw [Limits.evaluate_of_short groupFits.short, tokenizes_iff.2 tokenizes]
    exact parts.reckonTokens valued shallow
  -- What stands before the gap keeps its place, and what stands behind it moves with the width.
  have before : ∀ token ∈ front, token.span.start ≤ context.before.utf8ByteSize ∧
      token.span.stop ≤ context.before.utf8ByteSize := by
    intro token member
    rw [← Text.byteLength_toList]
    exact parts.before.span_le member
  refine ⟨front, within, back, parts, withGroup, ?_⟩
  calc limits.evaluate (context.fill (Layout.result.text value))
    _ = reckonTokens limits.maxNestingDepth (.ok (Context.numberRow front back value
          context.before.utf8ByteSize
          (context.before.utf8ByteSize + (Layout.result.text value).utf8ByteSize))) := by
        rw [Limits.evaluate_of_short resultFits.short, tokenizes_iff.2 (parts.tokenizes finite)]
    _ = reckonTokens limits.maxNestingDepth (.ok ((Context.numberRow front back value
          context.before.utf8ByteSize
          (context.before.utf8ByteSize + ("(" ++ group ++ ")").utf8ByteSize)).map
            (context.afterResult group value).item)) := by
        rw [Context.afterResult, Relocation.map_resize (context.forward group) before]
    _ = (limits.evaluate (context.fill ("(" ++ group ++ ")"))).mapError
          (context.afterResult group value).failure := by
        rw [Relocation.reckonTokens_map, withGroup]

theorem Context.Parts.sameDivision {front within back : Tokens} {span : Span}
    (parts : context.Parts group front within back)
    (member : ⟨.op '/', span⟩ ∈ numberRow front back value context.before.utf8ByteSize
      (context.before.utf8ByteSize + ("(" ++ group ++ ")").utf8ByteSize)) :
    context.SameDivision ("(" ++ group ++ ")") (Layout.result.text value) span
      ((context.afterResult group value).span span) := by
  rcases List.mem_append.1 member with before | behind
  · obtain ⟨startLe, stopLe⟩ := parts.before.span_le before
    rw [Text.byteLength_toList] at startLe stopLe
    exact .inl ⟨(slices_of_op parts.before.read before).1, Relocation.resize_before startLe stopLe⟩
  · rcases List.mem_cons.1 behind with number | later
    · cases number
    · obtain ⟨⟨elem, place⟩, inside, same⟩ := List.mem_map.1 later
      cases same
      exact .inr ⟨place, (slices_of_op parts.behind.read inside).1, rfl,
        Relocation.resize_behind (context.forward group) place⟩

theorem evaluate_result (finite : value.isFinite = true)
    (short : (Layout.result.text value).utf8ByteSize ≤ limits.maxInputLen) :
    limits.evaluate (Layout.result.text value) = .ok value := by
  have tokenizes := Tokenizes.result finite 0 (by simp) (tokenizes_nil true)
  rw [List.append_nil] at tokenizes
  rw [Limits.evaluate_of_short short, tokenizes_iff.2 tokenizes]
  rfl

/-- In a text that follows the grammar, the text of its value may stand for a group that comes to a finite
one: either way the text has the same value or divides by zero at the same division. The text of a finite
number comes to that number itself. -/
theorem evaluate_substituted (limits : Limits) :
    (∀ (inner : Limits) (context : Context) (group : String) (value : Float),
      WellFormed (context.fill ("(" ++ group ++ ")")) → inner.evaluate group = .ok value →
      value.isFinite = true → limits.Admits (context.fill ("(" ++ group ++ ")")) →
      limits.Admits (context.fill (Layout.result.text value)) →
      (∃ result, limits.evaluate (context.fill ("(" ++ group ++ ")")) = .ok result ∧
        limits.evaluate (context.fill (Layout.result.text value)) = .ok result) ∨
      ∃ place otherPlace,
        context.SameDivision ("(" ++ group ++ ")") (Layout.result.text value) place otherPlace ∧
        limits.evaluate (context.fill ("(" ++ group ++ ")")) =
          .error (.eval (.divisionByZero place)) ∧
        limits.evaluate (context.fill (Layout.result.text value)) =
          .error (.eval (.divisionByZero otherPlace))) ∧
    ∀ value : Float, value.isFinite = true → limits.Admits (Layout.result.text value) →
      limits.evaluate (Layout.result.text value) = .ok value := by
  constructor
  · intro inner context group value wellFormed valued finite groupFits resultFits
    obtain ⟨front, within, back, parts, withGroup, withResult⟩ :=
      evaluate_fill wellFormed valued finite groupFits resultFits
    rcases wellFormed.evaluate groupFits with ⟨result, same⟩ | ⟨place, divides⟩
    · rw [same] at withResult
      exact .inl ⟨result, same, withResult⟩
    · rw [divides] at withResult withGroup
      have member := mem_of_divisionByZero withGroup.symm
      exact .inr ⟨place, _, parts.sameDivision member, divides, withResult⟩
  · intro value finite fits
    exact evaluate_result finite fits.short

/-- The sign of a result binds closest also before a power, and a place behind it moves with its width. -/
theorem evaluate_substituted_negative_power :
    let limits : Limits := ⟨20, 1⟩
    let context : Context := ⟨"2-", "^2 / 0"⟩
    WellFormed (context.fill "(1-4)") ∧ limits.evaluate "1-4" = .ok (-3) ∧
      (-3 : Float).isFinite = true ∧ limits.Admits (context.fill "(1-4)") ∧
        limits.Admits (context.fill "-3") ∧
          limits.evaluate "2-(1-4)^2 / 0" = .error (.eval (.divisionByZero ⟨10, 11⟩)) ∧
            limits.evaluate "2--3^2 / 0" = .error (.eval (.divisionByZero ⟨7, 8⟩)) ∧
              (-0 : Float).isFinite = true ∧ limits.Admits "-0" ∧
                limits.evaluate "-0" = .ok (-0) := by
  intro limits context
  have literal {text : List Char} (value : Float) (numeral : isNumeral text = true)
      (spelled : Decimal.read? text = some value) (finite : value.isFinite = true) :
      Writes .operand text := .literal numeral spelled finite
  have zero : Writes .operand ['0'] := literal 0 (by decide) (by decide +kernel) (by decide +kernel)
  have one : Writes .operand ['1'] := literal 1 (by decide) (by decide +kernel) (by decide +kernel)
  have two : Writes .operand ['2'] := literal 2 (by decide) (by decide +kernel) (by decide +kernel)
  have four : Writes .operand ['4'] := literal 4 (by decide) (by decide +kernel) (by decide +kernel)
  have inside : Writes .expression "1-4".toList := .chain (by decide) (.single one) four
  have power : Writes .expression "2-(1-4)^2".toList :=
    .chain (by decide) (.chain (by decide) (.single two) (.group inside)) two
  have bare : (Text.withoutBlanks (context.fill "(1-4)")).toList =
      "2-(1-4)^2".toList ++ ['/', '0'] := by decide
  have wellFormed : WellFormed (context.fill "(1-4)") := by
    rw [WellFormed, bare]
    exact .chain (by decide) power zero
  have value : limits.evaluate "1-4" = .ok (-3) := by decide +kernel
  have finite : (-3 : Float).isFinite = true := by decide +kernel
  have text : Layout.result.text (-3) = "-3" := by decide +kernel
  have fits : limits.Admits (context.fill "(1-4)") := ⟨by decide, by decide⟩
  have resultFits : limits.Admits (context.fill "-3") := ⟨by decide, by decide⟩
  have divides : limits.evaluate (context.fill "(1-4)") =
      .error (.eval (.divisionByZero ⟨10, 11⟩)) := by decide +kernel
  have zeroFinite : (-0 : Float).isFinite = true := by decide +kernel
  have zeroText : Layout.result.text (-0) = "-0" := by decide +kernel
  have zeroFits : limits.Admits "-0" := ⟨by decide, by decide⟩
  obtain ⟨substituted, results⟩ := evaluate_substituted limits
  have moved : limits.evaluate (context.fill "-3") = .error (.eval (.divisionByZero ⟨7, 8⟩)) := by
    rcases substituted limits context "1-4" (-3) wellFormed value finite fits
        (by rw [text]; exact resultFits) with
      ⟨result, same, _⟩ | ⟨place, otherPlace, division, same, other⟩
    · cases divides.symm.trans same
    · cases divides.symm.trans same
      rw [text] at division other
      rcases division with ⟨⟨before, after, split, _⟩, _⟩ | ⟨⟨start, stop⟩, _, here, there⟩
      · have member : '/' ∈ "2-".toList := split ▸ by simp
        exact absurd member (by decide)
      · have startHere : 10 = start + 7 := congrArg Span.start here
        have stopHere : 11 = stop + 7 := congrArg Span.stop here
        obtain rfl : start = 3 := by omega
        obtain rfl : stop = 4 := by omega
        rw [other, there]
        rfl
  refine ⟨wellFormed, value, finite, fits, resultFits, divides, moved, zeroFinite, zeroFits, ?_⟩
  rw [← zeroText]
  exact results (-0) zeroFinite (by rw [zeroText]; exact zeroFits)

end Substitution

end Reckon
