import Reckon.Decimal.Basic

/-! The texts that spell a number, and that every one of them is read. -/

namespace Reckon

def isNumeric (c : Char) : Bool := c.isDigit || c == '.'

def withoutSign : List Char → List Char
  | '-' :: body => body
  | text => text

theorem withoutSign_of_ne {c : Char} (unsigned : c ≠ '-') (rest : List Char) :
    withoutSign (c :: rest) = c :: rest := by
  unfold withoutSign
  split
  · next body same =>
    injection same with same
    exact absurd same unsigned
  · rfl

/-- An optional minus, then digits with at most one point, and one digit at least. -/
def isNumeral (text : List Char) : Bool :=
  (withoutSign text).all isNumeric && (withoutSign text).any Char.isDigit &&
    (withoutSign text).count '.' ≤ 1

theorem utf8Size_numeric {c : Char} (numeric : isNumeric c = true) : c.utf8Size = 1 := by
  rcases Bool.or_eq_true_iff.1 numeric with digit | point
  · have bounds := Char.isDigit_iff_toNat.1 digit
    have ascii : c.toNat ≤ 127 := Nat.le_trans bounds.2 (by decide)
    exact Char.utf8Size_eq_one_iff.2 (UInt32.le_iff_toNat_le.2 ascii)
  · rw [eq_of_beq point]
    rfl

theorem isDigit_eq_of_numeric {c : Char} (numeric : isNumeric c = true) :
    c.isDigit = (c != '.') := by
  cases point : c == '.' with
  | true =>
    rw [eq_of_beq point]
    rfl
  | false => simpa [isNumeric, point, bne] using numeric

namespace Decimal

theorem all_digits_of_few_points {fraction : List Char} (numeric : fraction.all isNumeric = true)
    (few : ('.' :: fraction).count '.' ≤ 1) : fraction.all Char.isDigit = true := by
  have none : '.' ∉ fraction := by
    rw [← List.count_eq_zero]
    rw [List.count_cons_self] at few
    omega
  rw [List.all_eq_true] at numeric ⊢
  intro c member
  rw [isDigit_eq_of_numeric (numeric c member), bne_iff_ne]
  rintro rfl
  exact none member

theorem ofChars?_isSome {body : List Char} (numeric : body.all isNumeric = true)
    (digit : body.any Char.isDigit = true) (few : body.count '.' ≤ 1) :
    (ofChars? body).isSome = true := by
  have parts := List.takeWhile_append_dropWhile (p := Char.isDigit) (l := body)
  cases tail : body.dropWhile Char.isDigit with
  | nil =>
    rw [tail, List.append_nil] at parts
    have nonempty : body ≠ [] := by
      rintro rfl
      cases digit
    simp [ofChars?, tail, parts, nonempty]
  | cons c fraction =>
    rw [tail] at parts
    have notDigit : c.isDigit = false := by
      have head := List.head?_dropWhile_not Char.isDigit body
      simpa [tail] using head
    have point : c = '.' := by
      have whole : isNumeric c = true :=
        List.all_eq_true.1 numeric c (by rw [← parts]; simp)
      simpa [isNumeric, notDigit] using whole
    subst point
    rw [← parts] at numeric digit few
    simp only [List.all_append, List.all_cons, Bool.and_eq_true] at numeric
    rw [List.count_append] at few
    have digits := all_digits_of_few_points numeric.2.2 (Nat.le_trans (Nat.le_add_left _ _) few)
    have row : body.takeWhile Char.isDigit ++ fraction ≠ [] := by
      intro empty
      obtain ⟨noWhole, noFraction⟩ := List.append_eq_nil_iff.1 empty
      rw [noWhole, noFraction] at digit
      cases digit
    simp [ofChars?, tail, row, digits]

theorem exists_read?_of_isNumeral {text : List Char} (numeral : isNumeral text = true) :
    ∃ value, read? text = some value := by
  simp only [isNumeral, Bool.and_eq_true, decide_eq_true_eq] at numeral
  obtain ⟨d, readable⟩ :=
    Option.isSome_iff_exists.1 (ofChars?_isSome numeral.1.1 numeral.1.2 numeral.2)
  unfold withoutSign at readable
  split at readable
  · exact ⟨_, by rw [read?, readable]; rfl⟩
  · next unsigned =>
    refine ⟨Binary64.toFloat false d.nearest, ?_⟩
    unfold read?
    split
    · next body => exact absurd rfl (unsigned body)
    · rw [readable]
      rfl

theorem no_point_of_digits {row : List Char} (digits : ∀ c ∈ row, c.isDigit = true) :
    row.count '.' = 0 := by
  rw [List.count_eq_zero]
  intro point
  exact absurd (digits '.' point) (by decide)

theorem numeric_of_ofChars? {body : List Char} {d : Decimal} (readable : ofChars? body = some d) :
    body.all isNumeric = true ∧ body.any Char.isDigit = true ∧ body.count '.' ≤ 1 := by
  have parts := List.takeWhile_append_dropWhile (p := Char.isDigit) (l := body)
  have wholeDigits : ∀ c ∈ body.takeWhile Char.isDigit, c.isDigit = true :=
    List.all_eq_true.1 List.all_takeWhile
  unfold ofChars? at readable
  simp only at readable
  split at readable
  · next noTail =>
    rw [noTail, List.append_nil] at parts
    rw [parts] at readable wholeDigits
    have nonempty : body ≠ [] := by
      rintro rfl
      cases readable
    obtain ⟨c, rest, rfl⟩ := List.exists_cons_of_ne_nil nonempty
    refine ⟨?_, ?_, ?_⟩
    · rw [List.all_eq_true]
      intro c member
      rw [isNumeric, wholeDigits c member, Bool.true_or]
    · rw [List.any_cons, wholeDigits c List.mem_cons_self, Bool.true_or]
    · rw [no_point_of_digits wholeDigits]
      exact Nat.zero_le 1
  · next fraction pointed =>
    split at readable
    · cases readable
    · next spelled =>
      simp only [Bool.or_eq_true, Bool.not_eq_true', not_or, Bool.not_eq_false] at spelled
      obtain ⟨nonempty, fractionAll⟩ := spelled
      have fractionDigits : ∀ c ∈ fraction, c.isDigit = true := List.all_eq_true.1 fractionAll
      rw [pointed] at parts
      rw [← parts]
      refine ⟨?_, ?_, ?_⟩
      · rw [List.all_eq_true]
        intro c member
        rcases List.mem_append.1 member with before | behind
        · rw [isNumeric, wholeDigits c before, Bool.true_or]
        · rcases List.mem_cons.1 behind with rfl | later
          · rfl
          · rw [isNumeric, fractionDigits c later, Bool.true_or]
      · obtain ⟨c, rest, row⟩ := List.exists_cons_of_ne_nil
          (mt List.isEmpty_iff.2 nonempty)
        have inRow : c ∈ body.takeWhile Char.isDigit ++ fraction := by
          rw [row]
          exact List.mem_cons_self
        rw [List.any_eq_true]
        rcases List.mem_append.1 inRow with before | behind
        · exact ⟨c, List.mem_append_left _ before, wholeDigits c before⟩
        · refine ⟨c, ?_, fractionDigits c behind⟩
          exact List.mem_append_right _ (List.mem_cons_of_mem _ behind)
      · apply Nat.le_of_eq
        rw [List.count_append, List.count_cons_self, no_point_of_digits wholeDigits,
          no_point_of_digits fractionDigits]
  · cases readable

theorem isNumeral_of_read? {text : List Char} {value : Float} (readable : read? text = some value) :
    isNumeral text = true := by
  have body : ∃ d, ofChars? (withoutSign text) = some d := by
    unfold read? at readable
    split at readable
    · obtain ⟨d, spelled, _⟩ := Option.map_eq_some_iff.1 readable
      exact ⟨d, spelled⟩
    · next unsigned =>
      obtain ⟨d, spelled, _⟩ := Option.map_eq_some_iff.1 readable
      refine ⟨d, ?_⟩
      unfold withoutSign
      split
      · next rest => exact absurd rfl (unsigned rest)
      · exact spelled
  obtain ⟨d, spelled⟩ := body
  obtain ⟨numeric, digit, few⟩ := numeric_of_ofChars? spelled
  rw [isNumeral, numeric, digit, decide_eq_true few]
  rfl

end Decimal

end Reckon
