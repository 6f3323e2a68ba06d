import Reckon.Decimal.RoundTrip
import Reckon.Record

/-! What is printed never holds a control character: digits and number texts by their making, quoted
characters and texts because every control character is escaped. -/

namespace Reckon

namespace Text

/-- The control characters, general category Cc of Unicode. -/
def isControl (c : Char) : Bool := c.toNat ≤ 0x1F || (0x7F ≤ c.toNat && c.toNat ≤ 0x9F)

/-- A text that neither breaks a line nor steers a terminal. -/
def Clean (text : List Char) : Prop := ∀ c ∈ text, isControl c = false

instance (text : List Char) : Decidable (Clean text) := List.decidableBAll _ text

@[simp] theorem clean_nil : Clean [] := fun _ member => nomatch member

@[simp] theorem clean_cons {c : Char} {text : List Char} :
    Clean (c :: text) ↔ isControl c = false ∧ Clean text := List.forall_mem_cons

@[simp] theorem clean_append {first second : List Char} :
    Clean (first ++ second) ↔ Clean first ∧ Clean second := List.forall_mem_append

theorem Clean.sublist {part whole : List Char} (clean : Clean whole) (sublist : part.Sublist whole) :
    Clean part := fun c member => clean c (sublist.mem member)

section Digits

theorem isControl_digitChar (d : Nat) : isControl d.digitChar = false := by
  by_cases small : d < 16
  · have checked : ∀ d < 16, isControl d.digitChar = false := by decide
    exact checked d small
  · rw [Nat.digitChar_eq_star.2 (Nat.le_of_not_lt small)]
    rfl

theorem clean_toDigits {base : Nat} (proper : 1 < base) (n : Nat) : Clean (Nat.toDigits base n) := by
  induction n using Nat.base_induction base proper with
  | single d small =>
    rw [Nat.toDigits_of_lt_base small]
    simp [isControl_digitChar]
  | digit d front small positive ih =>
    rw [← Nat.toDigits_append_toDigits proper positive small, Nat.toDigits_of_lt_base small]
    simp [ih, isControl_digitChar]

theorem clean_toString (n : Nat) : Clean (toString n).toList := by
  rw [Nat.toString_eq_repr, Nat.toList_repr]
  exact clean_toDigits (by decide) n

end Digits

section Quoted

theorem isUnprintable_of_isControl {c : Char} (control : isControl c = true) :
    isUnprintable c = true := by
  obtain ⟨rest, ranges⟩ : ∃ rest, unprintableRanges = (0x0, 0x1F) :: (0x7F, 0xA0) :: rest :=
    ⟨_, rfl⟩
  simp only [isControl, Bool.or_eq_true, Bool.and_eq_true, decide_eq_true_eq] at control
  rw [isUnprintable, ranges, inRanges, inRanges]
  rcases control with low | ⟨least, greatest⟩
  · simp [low]
  · have below : c.toNat ≤ 0xA0 := by omega
    simp [Nat.not_lt.2 least, below]

variable {quote : Char} (visible : isControl quote = false)

include visible

theorem clean_escape (c : Char) : Clean (escape quote c) := by
  unfold escape
  split
  case h_6 =>
    split
    · next same => simp [same, visible, show isControl '\\' = false from rfl]
    · split
      · have digits := clean_toDigits (by decide : 1 < 16) c.toNat
        simp [hexEscape, digits, isControl]
      · next printable =>
        have harmless : isControl c = false := by
          cases control : isControl c with
          | false => rfl
          | true => simp [isUnprintable_of_isControl control] at printable
        simp [harmless]
  all_goals decide

theorem clean_quoted (text : List Char) : Clean (quoted quote text).toList := by
  have inside : Clean (text.flatMap (escape quote)) := by
    intro c member
    obtain ⟨origin, _, written⟩ := List.mem_flatMap.1 member
    exact clean_escape visible origin c written
  simp [quoted, inside, visible]

end Quoted

theorem clean_quoteChar (c : Char) : Clean (quoteChar c).toList := clean_quoted rfl [c]

theorem clean_quoteString (s : String) : Clean (quoteString s).toList := clean_quoted rfl s.toList

end Text

namespace Layout

open Text (Clean clean_toDigits isControl)

theorem clean_power (power : Int) : Clean (toString power).toList := by
  cases power with
  | ofNat n => exact Text.clean_toString n
  | negSucc n =>
    have digits := Text.clean_toString (n + 1)
    change Clean ("-" ++ toString (n + 1)).toList
    rw [String.toList_append]
    exact Text.clean_append.2 ⟨by decide, digits⟩

theorem clean_zeros (count : Nat) : Clean (zeros count) := by
  intro c member
  rw [List.eq_of_mem_replicate member]
  rfl

variable (layout : Layout)

theorem clean_wholeEnd : Clean layout.wholeEnd := by
  unfold wholeEnd
  split <;> decide

section Digits

variable {digits : List Char} (clean : Clean digits) (place : Int)

include clean

theorem clean_dropTrailingZeros : Clean (dropTrailingZeros digits) := by
  obtain ⟨count, parts⟩ := dropTrailingZeros_append digits
  rw [parts] at clean
  exact (Text.clean_append.1 clean).1

theorem clean_plain : Clean (layout.plain digits place) := by
  unfold plain
  split
  · simp [clean, clean_zeros, isControl]
  · split
    · simp [clean, clean_zeros, clean_wholeEnd]
    · have front := clean.sublist (List.take_sublist place.toNat digits)
      have back := clean.sublist (List.drop_sublist place.toNat digits)
      simp [front, back, isControl]

theorem clean_scientific : Clean (scientific digits place) := by
  have power := clean_power (place - 1)
  unfold scientific
  split
  · have lead := (Text.clean_cons.1 clean).1
    exact Text.clean_cons.2 ⟨lead, Text.clean_cons.2 ⟨rfl, power⟩⟩
  · obtain ⟨lead, rest⟩ := Text.clean_cons.1 clean
    have tail := Text.clean_append.2 ⟨rest, Text.clean_cons.2 ⟨(rfl : isControl 'e' = false), power⟩⟩
    exact Text.clean_cons.2 ⟨lead, Text.clean_cons.2 ⟨rfl, tail⟩⟩
  · exact Text.clean_nil

end Digits

theorem clean_magnitude (bits : Nat) : Clean (layout.magnitude bits) := by
  unfold magnitude
  split
  · exact Text.clean_cons.2 ⟨rfl, clean_wholeEnd layout⟩
  · have kept := clean_dropTrailingZeros
      (clean_toDigits (by decide : 1 < 10) (Decimal.shortest bits).digits)
    simp only
    split
    · exact clean_plain layout kept _
    · exact clean_scientific kept _

theorem clean_text (x : Float) : Clean (layout.text x).toList := by
  unfold text
  simp only
  split
  · decide
  · next number =>
    have body : Clean (if Binary64.magnitude x = Binary64.infinity then ['i', 'n', 'f']
        else layout.magnitude (Binary64.magnitude x)) := by
      split
      · decide
      · exact clean_magnitude layout _
    rw [String.toList_ofList]
    split
    · exact Text.clean_cons.2 ⟨rfl, body⟩
    · exact body

end Layout

end Reckon
