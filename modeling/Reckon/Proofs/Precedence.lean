import Reckon.Proofs.Grouping
import Reckon.Proofs.Infix

/-! The tree that stands for a row of operands and operators. Main statement: an expression in infix
form is listed as the tree in which the operators of the table group by their precedences, and the first
other operator of a row takes all that follows as its right operand. -/

namespace Reckon

mutual

inductive Operand where
  | num (value : Float) (span : Span)
  | paren (opening closing : Span) (inside : Row)

inductive Row where
  | single (operand : Operand)
  | chain (first : Operand) (sym : Char) (span : Span) (rest : Row)

end

mutual

def Operand.tokens : Operand → Tokens
  | .num value span => [⟨.num value, span⟩]
  | .paren opening closing inside =>
    ⟨.paren .opening, opening⟩ :: (inside.tokens ++ [⟨.paren .closing, closing⟩])

def Row.tokens : Row → Tokens
  | .single operand => operand.tokens
  | .chain first sym span rest => first.tokens ++ ⟨.op sym, span⟩ :: rest.tokens

end

def Row.extend (sym : Char) (span : Span) (last : Operand) : Row → Row
  | .single operand => .chain operand sym span (.single last)
  | .chain first inner place rest => .chain first inner place (rest.extend sym span last)

theorem Row.tokens_extend (row : Row) (sym : Char) (span : Span) (last : Operand) :
    (row.extend sym span last).tokens = row.tokens ++ ⟨.op sym, span⟩ :: last.tokens := by
  match row with
  | .single operand => rfl
  | .chain first inner place rest => simp [Row.extend, Row.tokens, rest.tokens_extend]

/-- Each phrase of the grammar is spelled by an operand or a row. The grammar reads a row from its end,
so that a step of it adds to the end of the row. -/
theorem Derives.exists_tokens {phrase : Phrase} {tokens : Tokens} (derives : Derives phrase tokens) :
    match phrase with
    | .operand => ∃ operand : Operand, operand.tokens = tokens
    | .expression => ∃ row : Row, row.tokens = tokens := by
  induction derives with
  | num value span => exact ⟨.num value span, rfl⟩
  | paren opening closing inside ih =>
    obtain ⟨row, rfl⟩ := ih
    exact ⟨.paren opening closing row, rfl⟩
  | single derived ih =>
    obtain ⟨operand, rfl⟩ := ih
    exact ⟨.single operand, rfl⟩
  | chain sym span before behind ihBefore ihBehind =>
    obtain ⟨row, rfl⟩ := ihBefore
    obtain ⟨last, rfl⟩ := ihBehind
    exact ⟨row.extend sym span last, row.tokens_extend sym span last⟩

structure Link where
  sym : Char
  operator : Operator
  span : Span
  operand : Expr
  found : Operator.find? sym = some operator

structure Series where
  first : Expr
  links : List Link

/-- The operator that is carried out last, with what stands before it and behind it. It is the last one
of the lowest precedence, but of several powers the first one. -/
def loosest : List Link → Option (List Link × Link × List Link)
  | [] => none
  | link :: rest =>
    match loosest rest with
    | none => some ([], link, rest)
    | some (before, root, after) =>
      if root.operator.prec < link.operator.prec ∨
          root.operator.prec = link.operator.prec ∧ root.sym ≠ '^' then
        some (link :: before, root, after)
      else some ([], link, rest)

theorem links_of_loosest {links before after : List Link} {root : Link}
    (split : loosest links = some (before, root, after)) : links = before ++ root :: after := by
  induction links generalizing before with
  | nil => cases split
  | cons link rest ih =>
    rw [loosest] at split
    split at split
    · cases split
      rfl
    · next inner last later tail =>
      split at split
      · cases split
        rw [ih tail, List.cons_append]
      · cases split
        rfl

namespace Series

def tree (series : Series) : Expr :=
  match _ : loosest series.links with
  | none => series.first
  | some (before, root, after) =>
    .node root.sym root.span (tree ⟨series.first, before⟩) (tree ⟨root.operand, after⟩)
termination_by series.links.length
decreasing_by
  all_goals
    rename_i split
    rw [links_of_loosest split, List.length_append, List.length_cons]
    omega

end Series

mutual

def Operand.tree : Operand → Expr
  | .num value span => .num value span
  | .paren _ _ inside => inside.series.tree

/-- What a row is up to its first operator outside the table. That operator with the operand before it
and the tree of all that follows makes the last operand. -/
def Row.series : Row → Series
  | .single operand => ⟨operand.tree, []⟩
  | .chain first sym span rest =>
    match found : Operator.find? sym with
    | some operator =>
      ⟨first.tree, ⟨sym, operator, span, rest.series.first, found⟩ :: rest.series.links⟩
    | none => ⟨.node sym span first.tree rest.series.tree, []⟩

end

def Row.tree (row : Row) : Expr := row.series.tree

/-! ## The operator that is carried out last -/

theorem Operator.assoc_eq_left_iff {sym : Char} {operator : Operator}
    (found : find? sym = some operator) : operator.assoc = .left ↔ sym ≠ '^' := by
  have same := List.find?_some found
  have checked : ∀ operator ∈ table, operator.assoc = .left ↔ operator.sym ≠ '^' := by decide
  rw [checked operator (List.mem_of_find?_eq_some found), eq_of_beq same]

theorem Link.yieldsTo_iff (incoming top : Link) :
    incoming.operator.yieldsTo top.operator = true ↔
      incoming.operator.prec < top.operator.prec ∨
        incoming.operator.prec = top.operator.prec ∧ incoming.sym ≠ '^' := by
  rw [← Operator.assoc_eq_left_iff incoming.found]
  cases side : incoming.operator.assoc with
  | left =>
    simp only [Operator.yieldsTo, side, decide_eq_true_eq, and_true]
    exact Nat.le_iff_lt_or_eq
  | right => simp [Operator.yieldsTo, side]

theorem eq_nil_of_loosest {links : List Link} (nothing : loosest links = none) : links = [] := by
  cases links with
  | nil => rfl
  | cons link rest =>
    rw [loosest] at nothing
    split at nothing
    · cases nothing
    · split at nothing <;> cases nothing

theorem yieldsTo_of_loosest {links before after : List Link} {root : Link}
    (split : loosest links = some (before, root, after)) :
    (∀ link ∈ before, root.operator.yieldsTo link.operator = true) ∧
      ∀ link ∈ after, link.operator.yieldsTo root.operator = false := by
  induction links generalizing before root after with
  | nil => cases split
  | cons link rest ih =>
    rw [loosest] at split
    split at split
    · next tail =>
      cases split
      rw [eq_nil_of_loosest tail]
      exact ⟨nofun, nofun⟩
    · next inner last later tail =>
      obtain ⟨yields, holds⟩ := ih tail
      split at split
      · next tighter =>
        cases split
        exact ⟨List.forall_mem_cons.2 ⟨(root.yieldsTo_iff link).2 tighter, yields⟩, holds⟩
      · next looser =>
        have first : last.operator.yieldsTo link.operator = false := by
          rw [Bool.eq_false_iff, Ne, Link.yieldsTo_iff]
          exact looser
        cases split
        -- What yields to the new root would make the root of the rest yield to it too.
        refine ⟨nofun, fun other member => Bool.eq_false_iff.2 fun sooner => ?_⟩
        rw [links_of_loosest tail, List.mem_append, List.mem_cons] at member
        obtain inside | rfl | behind := member
        · exact Bool.eq_false_iff.1 first (Operator.yieldsTo_trans (yields other inside) sooner)
        · exact Bool.eq_false_iff.1 first sooner
        · exact Bool.eq_false_iff.1 (holds other behind)
            (Operator.yieldsTo_of_not_yieldsTo sooner first)

/-! ## Rows of tokens and their trees -/

/-- Tokens that spell a series. Each operand but the last stops at the operator behind it. -/
inductive Spells : Tokens → Series → Bool → Prop
  | last {tokens : Tokens} {tree : Expr} {greedy : Bool} (operand : Groups tokens tree none greedy) :
      Spells tokens ⟨tree, []⟩ greedy
  | link {tokens rest : Tokens} {tree : Expr} {links : List Link} {greedy : Bool} (link : Link)
      (operand : Groups tokens tree none false) (later : Spells rest ⟨link.operand, links⟩ greedy) :
      Spells (tokens ++ ⟨.op link.sym, link.span⟩ :: rest) ⟨tree, link :: links⟩ greedy

theorem Spells.split {tokens : Tokens} {series : Series} {greedy : Bool}
    (spells : Spells tokens series greedy) {before after : List Link} {root : Link}
    (links : series.links = before ++ root :: after) :
    ∃ left right, tokens = left ++ ⟨.op root.sym, root.span⟩ :: right ∧
      Spells left ⟨series.first, before⟩ false ∧ Spells right ⟨root.operand, after⟩ greedy := by
  induction spells generalizing before with
  | last operand => cases before <;> cases links
  | @link tokens rest tree _ greedy link operand later ih =>
    cases before with
    | nil =>
      cases links
      exact ⟨tokens, rest, rfl, .last operand, later⟩
    | cons head before =>
      cases links
      obtain ⟨left, right, rfl, leftSpells, rightSpells⟩ := ih rfl
      refine ⟨_, right, ?_, .link link operand leftSpells, rightSpells⟩
      rw [List.append_assoc, List.cons_append]

def Series.top (series : Series) : Option Operator :=
  (loosest series.links).map (·.2.1.operator)

theorem Series.exists_link_of_top {series : Series} {operator : Operator}
    (top : operator ∈ series.top) : ∃ link ∈ series.links, link.operator = operator := by
  obtain ⟨⟨before, root, after⟩, split, same⟩ := Option.map_eq_some_iff.1 top
  refine ⟨root, ?_, same⟩
  rw [links_of_loosest split]
  exact List.mem_append_right _ List.mem_cons_self

theorem Spells.groups {tokens : Tokens} {series : Series} {greedy : Bool}
    (spells : Spells tokens series greedy) : Groups tokens series.tree series.top greedy := by
  -- The tokens are cut at the root, as the series is; only the part behind it may be greedy.
  fun_induction Series.tree series generalizing tokens greedy with
  | case1 series nothing =>
    have single : series.links = [] := eq_nil_of_loosest nothing
    cases spells with
    | last operand => exact operand
    | link link operand later => cases single
  | case2 series before root after split leftStep rightStep =>
    obtain ⟨left, right, rfl, leftSpells, rightSpells⟩ := spells.split (links_of_loosest split)
    obtain ⟨yields, holds⟩ := yieldsTo_of_loosest split
    have top : series.top = some root.operator := by rw [Series.top, split, Option.map_some]
    rw [top]
    refine .operator root.span root.found (leftStep leftSpells) (rightStep rightSpells) ?_ ?_
    · intro inner member
      obtain ⟨link, inside, rfl⟩ := Series.exists_link_of_top member
      exact yields link inside
    · intro inner member
      obtain ⟨link, inside, rfl⟩ := Series.exists_link_of_top member
      exact holds link inside

mutual

theorem Operand.groups (operand : Operand) : Groups operand.tokens operand.tree none false := by
  match operand with
  | .num value span => exact .num value span
  | .paren opening closing inside =>
    obtain ⟨greedy, spells⟩ := inside.spells
    exact .paren opening closing spells.groups

theorem Row.spells (row : Row) : ∃ greedy, Spells row.tokens row.series greedy := by
  match row with
  | .single operand => exact ⟨false, .last operand.groups⟩
  | .chain first sym span rest =>
    obtain ⟨greedy, spells⟩ := rest.spells
    rw [Row.series]
    split
    · next operator found =>
      exact ⟨greedy, .link ⟨sym, operator, span, rest.series.first, found⟩ first.groups spells⟩
    · next unknown => exact ⟨true, .last (.foreign span unknown first.groups spells.groups)⟩

end

/-- An expression in infix form is listed as its tree: the operators of the table group by precedence,
and the first other operator of a row takes the operand before it and the tree of all that follows. -/
theorem ofTokens_grouped {tokens : Tokens} {maxDepth : Nat} (derives : Derives .expression tokens)
    (shallow : Paren.deepest 0 (parens tokens) ≤ maxDepth) :
    (∃ row : Row, row.tokens = tokens) ∧
      ∀ row : Row, row.tokens = tokens → Postfix.ofTokens maxDepth tokens = .ok row.tree.listing := by
  refine ⟨derives.exists_tokens, ?_⟩
  rintro row rfl
  obtain ⟨greedy, spells⟩ := row.spells
  exact spells.groups.ofTokens shallow

/-- In `2 - 9 - (8 ^ 2 ^ 1) ? 5 + 6 * 7` the power is grouped to the right, the unknown operator takes
it and the whole sum behind it, and the two minus signs group to the left. -/
theorem ofTokens_grouped_unknown_operator :
    Postfix.ofTokens 1
        [⟨.num 2, ⟨0, 1⟩⟩, ⟨.op '-', ⟨2, 3⟩⟩, ⟨.num 9, ⟨4, 5⟩⟩, ⟨.op '-', ⟨6, 7⟩⟩,
          ⟨.paren .opening, ⟨8, 9⟩⟩, ⟨.num 8, ⟨9, 10⟩⟩, ⟨.op '^', ⟨11, 12⟩⟩, ⟨.num 2, ⟨13, 14⟩⟩,
          ⟨.op '^', ⟨15, 16⟩⟩, ⟨.num 1, ⟨17, 18⟩⟩, ⟨.paren .closing, ⟨18, 19⟩⟩, ⟨.op '?', ⟨20, 21⟩⟩,
          ⟨.num 5, ⟨22, 23⟩⟩, ⟨.op '+', ⟨24, 25⟩⟩, ⟨.num 6, ⟨26, 27⟩⟩, ⟨.op '*', ⟨28, 29⟩⟩,
          ⟨.num 7, ⟨30, 31⟩⟩] = .ok
      [⟨.num 2, ⟨0, 1⟩⟩, ⟨.num 9, ⟨4, 5⟩⟩, ⟨.op '-', ⟨2, 3⟩⟩, ⟨.num 8, ⟨9, 10⟩⟩,
        ⟨.num 2, ⟨13, 14⟩⟩, ⟨.num 1, ⟨17, 18⟩⟩, ⟨.op '^', ⟨15, 16⟩⟩, ⟨.op '^', ⟨11, 12⟩⟩,
        ⟨.num 5, ⟨22, 23⟩⟩, ⟨.num 6, ⟨26, 27⟩⟩, ⟨.num 7, ⟨30, 31⟩⟩, ⟨.op '*', ⟨28, 29⟩⟩,
        ⟨.op '+', ⟨24, 25⟩⟩, ⟨.op '?', ⟨20, 21⟩⟩, ⟨.op '-', ⟨6, 7⟩⟩] := by
  let power : Row := .chain (.num 8 ⟨9, 10⟩) '^' ⟨11, 12⟩
    (.chain (.num 2 ⟨13, 14⟩) '^' ⟨15, 16⟩ (.single (.num 1 ⟨17, 18⟩)))
  let sum : Row := .chain (.num 5 ⟨22, 23⟩) '+' ⟨24, 25⟩
    (.chain (.num 6 ⟨26, 27⟩) '*' ⟨28, 29⟩ (.single (.num 7 ⟨30, 31⟩)))
  let row : Row := .chain (.num 2 ⟨0, 1⟩) '-' ⟨2, 3⟩ (.chain (.num 9 ⟨4, 5⟩) '-' ⟨6, 7⟩
    (.chain (.paren ⟨8, 9⟩ ⟨18, 19⟩ power) '?' ⟨20, 21⟩ sum))
  have balanced : checkParens 1 [] row.tokens = .ok () := by decide +kernel
  have derives : Derives .expression row.tokens := (derives_iff balanced).2 ⟨by decide, by decide⟩
  have shallow : Paren.deepest 0 (parens row.tokens) ≤ 1 := by decide
  refine ((ofTokens_grouped derives shallow).2 row rfl).trans ?_
  decide +kernel

end Reckon
