import Reckon.Proofs.Enclosure
import Reckon.Proofs.Relocation

/-! What becomes of the tokens of a row in its listing. Main statement: a listing has every number and every
operator of its row once, and no number in it stands behind what it stood before in the row. -/

namespace Reckon

open Postfix (ofTokens)

def numberAt (row : Tokens) (place : Nat) : Bool := row[place]?.any (·.elem.isNum)

def operatorAt (row : Tokens) (place : Nat) : Bool := row[place]?.any (·.elem.isOp)

def keptPlaces (row : Tokens) : List Nat :=
  (List.range row.length).filter fun place => numberAt row place || operatorAt row place

def atPlaces (row : Tokens) (places : List Nat) : Tokens :=
  places.filterMap fun place => row[place]?

/-- The places of a row in the order in which a listing takes the tokens from them. Other spans make no other
order, so it is the places that are told apart and not the tokens. -/
structure Arranges (maxDepth : Nat) (row listing : Tokens) (places : List Nat) : Prop where
  listing_eq : listing = atPlaces row places
  eachOnce : places.Perm (keptPlaces row)
  numbersInOrder : ∀ first second, first < second → numberAt row first = true →
    numberAt row second = true → [first, second].Sublist places
  numbersFirst : ∀ first second, first < second → numberAt row first = true →
    operatorAt row second = true → [first, second].Sublist places
  anySpans : ∀ other : Tokens, other.map (·.elem) = row.map (·.elem) →
    ofTokens maxDepth other = .ok (atPlaces other places)

/-! ## What stands before a number -/

/-- Every number stands in the given order behind all that is listed before it. -/
def NumbersBehind (before : Located Token → Located Token → Prop) (listing : Tokens) : Prop :=
  listing.Pairwise fun first second => second.elem.isNum = true → before first second

section Order

variable {before : Located Token → Located Token → Prop}

theorem NumbersBehind.append_operators {listing carried : Tokens}
    (inOrder : NumbersBehind before listing) (operators : ∀ token ∈ carried, token.elem.isOp = true) :
    NumbersBehind before (listing ++ carried) := by
  have noNumber : ∀ first, ∀ token ∈ carried, token.elem.isNum = true → before first token := by
    intro first token member number
    obtain ⟨sym, op⟩ := Token.exists_of_isOp (operators token member)
    rw [op] at number
    cases number
  apply List.pairwise_append.2
  refine ⟨inOrder, ?_, fun first _ => noNumber first⟩
  exact List.pairwise_of_forall_mem_list fun first _ => noNumber first

namespace Postfix.Conversion

variable {maxDepth : Nat} {tokens : Tokens}

theorem NumbersBehind.step {read : Tokens} {conversion after : Conversion} {token : Located Token}
    (keeps : Keeps read conversion) (inOrder : NumbersBehind before conversion.listed.toList)
    (behind : ∀ earlier ∈ read, before earlier token) (moves : Moves maxDepth conversion token after) :
    NumbersBehind before after.listed.toList := by
  cases moves with
  | lists value span =>
    rw [Array.toList_push]
    apply List.pairwise_append.2
    refine ⟨inOrder, List.pairwise_singleton _ _, ?_⟩
    intro first member second last _
    rw [List.mem_singleton.1 last]
    have kept := keeps.conserved.mem_iff.1 (List.mem_append_left _ member)
    exact behind first (List.mem_filter.1 kept).1
  | waits span found carries holds =>
    rw [Array.toList_appendList]
    exact inOrder.append_operators fun token member => isOp_of_precedes (carries token member)
  | blocks span unknown => exact inOrder
  | opens span room => exact inOrder
  | closes opening span inside =>
    rw [Array.toList_appendList]
    apply inOrder.append_operators
    exact isOp_of_inside keeps.waits (fun _ => List.mem_append_left _) inside

theorem foldlM_numbersBehind {conversion : Conversion}
    (run : tokens.foldlM (accept maxDepth) .empty = .ok conversion) :
    tokens.Pairwise before → NumbersBehind before conversion.listed.toList := by
  -- The order of what was read is known only as far as the row has been read.
  apply foldlM_moves (fun _ => List.Pairwise.nil) _ run
  intro read reached token next keeps inOrder moves ordered
  obtain ⟨readOrdered, _, behind⟩ := List.pairwise_append.1 ordered
  apply NumbersBehind.step keeps (inOrder readOrdered) _ moves
  intro earlier member
  exact behind earlier member token List.mem_cons_self

end Postfix.Conversion

theorem Postfix.numbersBehind_of_listed {maxDepth : Nat} {tokens listing : Tokens}
    (listed : ofTokens maxDepth tokens = .ok listing) (ordered : tokens.Pairwise before) :
    NumbersBehind before listing := by
  obtain ⟨done, waiting, run, closed, rfl⟩ := Conversion.exists_run_of_listed listed
  have keeps := Conversion.foldlM_keeps run
  have inOrder := Conversion.foldlM_numbersBehind run ordered
  apply inOrder.append_operators
  exact Conversion.isOp_of_inside keeps.waits (fun _ member => member) closed

end Order

/-! ## Rows that carry their places -/

def numbered (elems : List Token) : Tokens :=
  elems.mapIdx fun place elem => ⟨elem, ⟨place, place⟩⟩

def Relocation.ofRow (row : Tokens) : Relocation where
  start place := (row[place]?.map (·.span.start)).getD place
  stop place := (row[place]?.map (·.span.stop)).getD place

theorem pairwise_numbered (elems : List Token) :
    (numbered elems).Pairwise fun first second => first.span.start < second.span.start := by
  rw [List.pairwise_iff_getElem]
  intro first second firstInside secondInside less
  simp only [numbered, List.getElem_mapIdx]
  exact less

section Numbered

variable {row : Tokens}

theorem item_ofRow {place : Nat} (inside : place < row.length) :
    (Relocation.ofRow row).item ⟨row[place].elem, ⟨place, place⟩⟩ = row[place] := by
  simp [Relocation.item, Relocation.span, Relocation.ofRow, inside]

theorem map_ofRow (row : Tokens) :
    (numbered (row.map (·.elem))).map (Relocation.ofRow row).item = row := by
  apply List.ext_getElem
  · simp [numbered]
  · intro place inside there
    simp only [numbered, List.getElem_map, List.getElem_mapIdx]
    exact item_ofRow there

theorem exists_place_of_mem {token : Located Token} (member : token ∈ numbered (row.map (·.elem))) :
    ∃ place, ∃ inside : place < row.length, token = ⟨row[place].elem, ⟨place, place⟩⟩ := by
  obtain ⟨place, inside, same⟩ := List.mem_mapIdx.1 member
  rw [List.length_map] at inside
  refine ⟨place, inside, ?_⟩
  rw [← same, List.getElem_map]

theorem mem_numbered {place : Nat} (inside : place < row.length) :
    ⟨row[place].elem, ⟨place, place⟩⟩ ∈ numbered (row.map (·.elem)) := by
  apply List.mem_mapIdx.2
  exact ⟨place, by simpa using inside, by rw [List.getElem_map]⟩

theorem map_item_eq_atPlaces {some : Tokens}
    (members : ∀ token ∈ some, token ∈ numbered (row.map (·.elem))) :
    some.map (Relocation.ofRow row).item = atPlaces row (some.map (·.span.start)) := by
  induction some with
  | nil => rfl
  | cons token rest ih =>
    obtain ⟨member, others⟩ := List.forall_mem_cons.1 members
    obtain ⟨place, inside, rfl⟩ := exists_place_of_mem member
    rw [List.map_cons, item_ofRow inside, ih others, atPlaces, atPlaces, List.map_cons,
      List.filterMap_cons, List.getElem?_eq_getElem inside]

theorem numberAt_eq {place : Nat} (inside : place < row.length) :
    numberAt row place = row[place].elem.isNum := by
  rw [numberAt, List.getElem?_eq_getElem inside, Option.any_some]

theorem operatorAt_eq {place : Nat} (inside : place < row.length) :
    operatorAt row place = row[place].elem.isOp := by
  rw [operatorAt, List.getElem?_eq_getElem inside, Option.any_some]

theorem kept_eq {place : Nat} (inside : place < row.length) :
    (numberAt row place || operatorAt row place) = row[place].elem.paren?.isNone := by
  rw [numberAt_eq inside, operatorAt_eq inside]
  cases row[place].elem <;> rfl

theorem keptPlaces_perm {listing : Tokens}
    (same : listing.Perm (withoutParens (numbered (row.map (·.elem))))) :
    (listing.map (·.span.start)).Perm (keptPlaces row) := by
  have ordered := pairwise_numbered (row.map (·.elem))
  have nodup : (listing.map (·.span.start)).Nodup := by
    apply (same.map _).nodup_iff.2
    exact (ordered.filter _).map _ fun _ _ less => Nat.ne_of_lt less
  apply (List.perm_ext_iff_of_nodup nodup (List.nodup_range.filter _)).2
  intro place
  rw [List.mem_map, List.mem_filter, List.mem_range]
  constructor
  · rintro ⟨token, member, rfl⟩
    obtain ⟨member, kept⟩ := List.mem_filter.1 (same.mem_iff.1 member)
    obtain ⟨place, inside, rfl⟩ := exists_place_of_mem member
    exact ⟨inside, (kept_eq inside).trans kept⟩
  · rintro ⟨inside, kept⟩
    rw [kept_eq inside] at kept
    refine ⟨⟨row[place].elem, ⟨place, place⟩⟩, ?_, rfl⟩
    exact same.mem_iff.2 (List.mem_filter.2 ⟨mem_numbered inside, kept⟩)

end Numbered

theorem Postfix.ofTokens_numbered {maxDepth : Nat} {row listing : Tokens}
    (listed : ofTokens maxDepth (numbered (row.map (·.elem))) = .ok listing) :
    ofTokens maxDepth row = .ok (atPlaces row (listing.map (·.span.start))) := by
  have kept := ofTokens_perm listed
  have members : ∀ token ∈ listing, token ∈ numbered (row.map (·.elem)) := by
    intro token member
    exact (List.mem_filter.1 (kept.mem_iff.1 member)).1
  rw [← map_item_eq_atPlaces members]
  conv => lhs; rw [← map_ofRow row]
  exact Relocation.ofTokens_item_of_ok _ listed

theorem Postfix.exists_listing_numbered {maxDepth : Nat} {row listing : Tokens}
    (listed : ofTokens maxDepth row = .ok listing) :
    ∃ other, ofTokens maxDepth (numbered (row.map (·.elem))) = .ok other := by
  rw [← map_ofRow row, Relocation.ofTokens_item] at listed
  cases found : ofTokens maxDepth (numbered (row.map (·.elem))) with
  | error failure =>
    rw [found] at listed
    cases listed
  | ok other => exact ⟨other, rfl⟩

theorem mem_keptPlaces {row : Tokens} {place : Nat} :
    place ∈ keptPlaces row ↔ numberAt row place = true ∨ operatorAt row place = true := by
  rw [keptPlaces, List.mem_filter, List.mem_range, Bool.or_eq_true]
  constructor
  · exact fun kept => kept.2
  · intro kept
    refine ⟨?_, kept⟩
    by_contra outside
    have nothing : row[place]? = none := List.getElem?_eq_none (Nat.not_lt.1 outside)
    simp [numberAt, operatorAt, nothing] at kept

theorem Postfix.pairwise_places {maxDepth : Nat} {row listing : Tokens}
    (listed : ofTokens maxDepth (numbered (row.map (·.elem))) = .ok listing) :
    (listing.map (·.span.start)).Pairwise fun first second =>
      numberAt row second = true → first < second := by
  have kept := ofTokens_perm listed
  have ordered := numbersBehind_of_listed listed (pairwise_numbered _)
  apply List.pairwise_map.2
  apply ordered.imp_of_mem
  intro first second _ member behind number
  obtain ⟨place, inside, rfl⟩ :=
    exists_place_of_mem (List.mem_filter.1 (kept.mem_iff.1 member)).1
  exact behind ((numberAt_eq inside).symm.trans number)

/-- The listing of a row holds no parentheses, and each number and each operator of the row from one place. A
number stands in it before all numbers and operators that it stands before in the row. -/
theorem ofTokens_arranges {maxDepth : Nat} {tokens listing : Tokens}
    (listed : ofTokens maxDepth tokens = .ok listing) :
    (∀ token ∈ listing, token.elem.paren? = none) ∧
      ∃ places, Arranges maxDepth tokens listing places := by
  obtain ⟨other, otherListed⟩ := Postfix.exists_listing_numbered listed
  have eachOnce := keptPlaces_perm (Postfix.ofTokens_perm otherListed)
  have anySpans (row : Tokens) (same : row.map (·.elem) = tokens.map (·.elem)) :
      ofTokens maxDepth row = .ok (atPlaces row (other.map (·.span.start))) := by
    rw [← same] at otherListed
    exact Postfix.ofTokens_numbered otherListed
  have before {first second : Nat} (less : first < second) (number : numberAt tokens first = true)
      (kept : second ∈ keptPlaces tokens) : [first, second].Sublist (other.map (·.span.start)) := by
    apply pair_sublist_of_pairwise (Postfix.pairwise_places otherListed)
    · exact eachOnce.mem_iff.2 (mem_keptPlaces.2 (.inl number))
    · exact eachOnce.mem_iff.2 kept
    · omega
    · intro behind
      have greater := behind number
      omega
  constructor
  · intro token member
    have kept := (Postfix.ofTokens_perm listed).mem_iff.1 member
    exact Option.isNone_iff_eq_none.1 (List.mem_filter.1 kept).2
  · refine ⟨other.map (·.span.start), ?_, eachOnce, ?_, ?_, anySpans⟩
    · exact Except.ok.inj (listed.symm.trans (anySpans tokens rfl))
    · exact fun first second less number also => before less number (mem_keptPlaces.2 (.inl also))
    · exact fun first second less number also => before less number (mem_keptPlaces.2 (.inr also))

/-- In `^ 2 ? ( 2 * - 2 ) +` one and the same number stands at three places, and operators stand before their
operands and behind them. -/
theorem ofTokens_arranges_misshapen :
    let two : Located Token := ⟨.num 2, ⟨0, 1⟩⟩
    let row : Tokens := [⟨.op '^', ⟨5, 3⟩⟩, two, ⟨.op '?', ⟨2, 3⟩⟩, ⟨.paren .opening, ⟨3, 4⟩⟩, two,
      ⟨.op '*', ⟨4, 5⟩⟩, ⟨.op '-', ⟨5, 6⟩⟩, two, ⟨.paren .closing, ⟨7, 8⟩⟩, ⟨.op '+', ⟨8, 9⟩⟩]
    let listing : Tokens := [two, two, ⟨.op '*', ⟨4, 5⟩⟩, two, ⟨.op '-', ⟨5, 6⟩⟩, ⟨.op '+', ⟨8, 9⟩⟩,
      ⟨.op '?', ⟨2, 3⟩⟩, ⟨.op '^', ⟨5, 3⟩⟩]
    ofTokens 1 row = .ok listing ∧ (∀ token ∈ listing, token.elem.paren? = none) ∧
      ∃ places, Arranges 1 row listing places := by
  intro two row listing
  have listed : ofTokens 1 row = .ok listing := by decide +kernel
  exact ⟨listed, ofTokens_arranges listed⟩

end Reckon
