import Reckon.Binary64.Bits
import Reckon.Decimal.Lemmas
import Reckon.Decimal.Layout

/-! The text of a finite result is read as that result. -/

namespace Reckon

namespace Decimal

theorem nearest_shift (digits zeros : Nat) (exponent : Int) :
    nearest ⟨digits * Nat.pow 10 zeros, exponent⟩ = nearest ⟨digits, exponent + zeros⟩ := by
  have positive (places : Nat) : 0 < 10 ^ places := Nat.pow_pos (by decide)
  have places : zeros + exponent.toNat + (-(exponent + zeros)).toNat =
      (exponent + zeros).toNat + (-exponent).toNat := by omega
  have cross : digits * 10 ^ zeros * 10 ^ exponent.toNat * 10 ^ (-(exponent + zeros)).toNat =
      digits * 10 ^ (exponent + zeros).toNat * 10 ^ (-exponent).toNat := by
    simp only [Nat.mul_assoc, ← Nat.pow_add]
    rw [← places, Nat.add_assoc]
  simp only [nearest, numerator, denominator, Nat.pow_eq]
  rw [← Binary64.nearest_mul (10 ^ (-(exponent + zeros)).toNat) _ _ (positive _),
    ← Binary64.nearest_mul (10 ^ (-exponent).toNat) (digits * 10 ^ (exponent + zeros).toNat) _
      (positive _),
    Nat.mul_comm _ (digits * 10 ^ zeros * 10 ^ exponent.toNat), cross,
    Nat.mul_comm (digits * 10 ^ (exponent + zeros).toNat),
    Nat.mul_comm (10 ^ (-(exponent + zeros)).toNat)]

theorem nearest_zero {d : Decimal} (zero : d.digits = 0) : d.nearest = 0 := by
  have positive : 0 < d.denominator := Nat.pow_pos (by decide)
  have log : (0 : Nat).log2 = 0 := by decide
  simp [nearest, numerator, zero, Binary64.nearest, Binary64.roundQuotient, log, positive]

theorem ofRow_append (first second : List Char) :
    ofRow (first ++ second) = ofRow first * Nat.pow 10 second.length + ofRow second := by
  rw [ofRow, Nat.ofDigitChars_append, Nat.ofDigitChars_eq_ofDigitChars_zero, Nat.mul_comm]
  rfl

theorem ofRow_zeros (count : Nat) : ofRow (Layout.zeros count) = 0 := by
  simp [ofRow, Layout.zeros, Nat.ofDigitChars_replicate_zero]

theorem ofChars?_whole {whole : List Char} (nonempty : whole ≠ [])
    (digits : ∀ c ∈ whole, c.isDigit = true) : ofChars? whole = some ⟨ofRow whole, 0⟩ := by
  have taken : (whole ++ []).takeWhile Char.isDigit = whole ++ [].takeWhile Char.isDigit :=
    List.takeWhile_append_of_pos digits
  have dropped : (whole ++ []).dropWhile Char.isDigit = [].dropWhile Char.isDigit :=
    List.dropWhile_append_of_pos digits
  simp only [List.append_nil, List.takeWhile_nil, List.dropWhile_nil] at taken dropped
  simp [ofChars?, taken, dropped, nonempty]

theorem ofChars?_point {whole fraction : List Char} (nonempty : whole ≠ [])
    (wholeDigits : ∀ c ∈ whole, c.isDigit = true)
    (fractionDigits : ∀ c ∈ fraction, c.isDigit = true) :
    ofChars? (whole ++ '.' :: fraction) =
      some ⟨ofRow (whole ++ fraction), -(fraction.length : Int)⟩ := by
  have taken : (whole ++ '.' :: fraction).takeWhile Char.isDigit = whole := by
    rw [List.takeWhile_append_of_pos wholeDigits]
    simp
  have dropped : (whole ++ '.' :: fraction).dropWhile Char.isDigit = '.' :: fraction := by
    rw [List.dropWhile_append_of_pos wholeDigits]
    simp
  have all : fraction.all Char.isDigit = true := List.all_eq_true.2 fractionDigits
  simp [ofChars?, taken, dropped, all, nonempty]

theorem read?_positive {text : List Char} {d : Decimal} (readable : ofChars? text = some d) :
    read? text = some (Binary64.toFloat false d.nearest) := by
  unfold read?
  split
  · next rest =>
    have minus : '-'.isDigit = false := by decide
    simp [ofChars?, minus] at readable
  · simp [readable]

theorem read?_negative {text : List Char} {d : Decimal} (readable : ofChars? text = some d) :
    read? ('-' :: text) = some (Binary64.toFloat true d.nearest) := by
  simp [read?, readable]

end Decimal

namespace Layout

open Decimal

theorem dropTrailingZeros_append (digits : List Char) :
    ∃ count, digits = dropTrailingZeros digits ++ zeros count := by
  have trailing : ∀ c ∈ digits.reverse.takeWhile (· == '0'), c = '0' := by
    intro c member
    exact eq_of_beq (List.all_eq_true.1 List.all_takeWhile c member)
  have parts := List.takeWhile_append_dropWhile (p := (· == '0')) (l := digits.reverse)
  rw [List.eq_replicate_of_mem trailing] at parts
  refine ⟨(digits.reverse.takeWhile (· == '0')).length, ?_⟩
  rw [dropTrailingZeros, zeros, ← List.reverse_inj, List.reverse_append, List.reverse_reverse,
    List.reverse_replicate, parts]

theorem zeros_digits (count : Nat) : ∀ c ∈ zeros count, c.isDigit = true := by
  intro c member
  rw [List.eq_of_mem_replicate member]
  decide

theorem ofChars?_plain {digits : List Char} (nonempty : digits ≠ [])
    (allDigits : ∀ c ∈ digits, c.isDigit = true) (place : Int) :
    ∃ d, ofChars? (result.plain digits place) = some d ∧
      d.nearest = nearest ⟨ofRow digits, place - digits.length⟩ := by
  unfold plain
  split
  · next small =>
    have zeroDigit : ∀ c ∈ ['0'], c.isDigit = true := by simp
    refine ⟨_, ofChars?_point (by simp) zeroDigit
      (List.forall_mem_append.2 ⟨zeros_digits _, allDigits⟩), ?_⟩
    have leading : ofRow ['0'] = 0 := by decide
    rw [ofRow_append, ofRow_append, ofRow_zeros, leading, Nat.zero_mul, Nat.zero_mul, Nat.zero_add,
      Nat.zero_add]
    congr 2
    simp only [zeros, List.length_append, List.length_replicate]
    omega
  · split
    · next short =>
      have point : result.wholeEnd = [] := rfl
      rw [point, List.append_nil]
      refine ⟨_, ofChars?_whole (by simp [nonempty])
        (List.forall_mem_append.2 ⟨allDigits, zeros_digits _⟩), ?_⟩
      rw [ofRow_append, ofRow_zeros, Nat.add_zero, nearest_shift]
      congr 2
      simp only [zeros, List.length_replicate]
      omega
    · next long =>
      have taken : digits.take place.toNat ≠ [] := by
        simp only [ne_eq, List.take_eq_nil_iff, nonempty, or_false]
        omega
      refine ⟨_, ofChars?_point taken (fun c member => allDigits c (List.mem_of_mem_take member))
        (fun c member => allDigits c (List.mem_of_mem_drop member)), ?_⟩
      rw [List.take_append_drop]
      congr 2
      rw [List.length_drop]
      omega

theorem isPlain_result (place : Int) : result.isPlain place = true := rfl

theorem ofChars?_plain_digits {d : Decimal} (positive : d.digits ≠ 0) :
    ∃ e, ofChars? (result.plain (dropTrailingZeros (Nat.toDigits 10 d.digits))
        ((Nat.toDigits 10 d.digits).length + d.exponent)) = some e ∧ e.nearest = d.nearest := by
  obtain ⟨count, parts⟩ := dropTrailingZeros_append (Nat.toDigits 10 d.digits)
  have value : ofRow (dropTrailingZeros (Nat.toDigits 10 d.digits)) * Nat.pow 10 count =
      d.digits := by
    have whole := congrArg ofRow parts
    rw [ofRow_append, ofRow_zeros, Nat.add_zero] at whole
    simpa [ofRow, zeros, Nat.ofDigitChars_ten_toDigits] using whole.symm
  have allDigits : ∀ c ∈ dropTrailingZeros (Nat.toDigits 10 d.digits), c.isDigit = true := by
    intro c member
    refine Nat.isDigit_of_mem_toDigits (b := 10) (n := d.digits) (by decide) (by decide) ?_
    rw [parts]
    exact List.mem_append_left _ member
  have length := congrArg List.length parts
  rw [List.length_append, zeros, List.length_replicate] at length
  have nonempty : dropTrailingZeros (Nat.toDigits 10 d.digits) ≠ [] := by
    intro none
    rw [none] at value
    have zero : d.digits = 0 := by simpa [ofRow] using value.symm
    exact positive zero
  obtain ⟨e, readable, near⟩ :=
    ofChars?_plain nonempty allDigits ((Nat.toDigits 10 d.digits).length + d.exponent)
  refine ⟨e, readable, ?_⟩
  have shifted : ((Nat.toDigits 10 d.digits).length + d.exponent -
      (dropTrailingZeros (Nat.toDigits 10 d.digits)).length : Int) = d.exponent + count := by
    omega
  rw [near, shifted, ← nearest_shift, value]

theorem ofChars?_magnitude {bits : Nat} (finite : bits < Binary64.infinity) :
    ∃ d, ofChars? (result.magnitude bits) = some d ∧ d.nearest = bits := by
  unfold magnitude
  split
  · next zero =>
    subst zero
    exact ⟨⟨0, 0⟩, rfl, nearest_zero rfl⟩
  · next nonzero =>
    have readBack := nearest_shortest finite
    have positive : (Decimal.shortest bits).digits ≠ 0 :=
      fun zero => nonzero (readBack.symm.trans (nearest_zero zero))
    obtain ⟨e, readable, near⟩ := ofChars?_plain_digits positive
    simp only [isPlain_result, if_true]
    exact ⟨e, readable, near.trans readBack⟩

theorem read?_text {x : Float} (finite : Binary64.magnitude x < Binary64.infinity) :
    read? (result.text x).toList = some x := by
  obtain ⟨d, readable, near⟩ := ofChars?_magnitude finite
  have notNaN : ¬Binary64.infinity < Binary64.magnitude x := Nat.lt_asymm finite
  have notInfinite : Binary64.magnitude x ≠ Binary64.infinity := Nat.ne_of_lt finite
  have signed := Binary64.toFloat_magnitude x
  simp only [text, notNaN, notInfinite, if_false, String.toList_ofList]
  cases negative : Binary64.isNegative x with
  | true =>
    rw [negative] at signed
    rw [if_pos rfl, read?_negative readable, near, signed]
  | false =>
    rw [negative] at signed
    rw [if_neg Bool.false_ne_true, read?_positive readable, near, signed]

end Layout

end Reckon
