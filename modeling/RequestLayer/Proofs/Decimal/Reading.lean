import Mathlib.Data.List.TakeWhile
import RequestLayer.Proofs.Decimal.Rounding

set_option autoImplicit false

namespace RequestLayer

namespace Decimal

def number (digits : List Char) : Nat := Nat.ofDigitChars 10 digits 0

def Digits (text : List Char) : Prop := ∀ c ∈ text, c.isDigit = true

def pointed (places : List Char) : List Char := if places.isEmpty then [] else '.' :: places

def signed (power : Int) : List Char :=
  (if power < 0 then '-' else '+') :: Nat.toDigits 10 power.natAbs

-- The numerals for a value: with a point alone, or with an exponent.
inductive Numeral : List Char → ℚ → Prop where
  | point (whole places : List Char) (some : whole ≠ []) (digits : Digits whole)
      (placesDigits : Digits places) :
      Numeral (whole ++ '.' :: places) (number (whole ++ places) * 10 ^ (-places.length : Int))
  | exponent (whole places : List Char) (power : Int) (some : whole ≠ []) (digits : Digits whole)
      (placesDigits : Digits places) :
      Numeral (whole ++ pointed places ++ 'e' :: signed power)
        (number (whole ++ places) * 10 ^ (power - places.length))

theorem digits_of (value : Nat) : Digits (Nat.toDigits 10 value) :=
  fun _ member => Nat.isDigit_of_mem_toDigits (by decide) (by decide) member

theorem digits_append (left right : List Char) (leftDigits : Digits left)
    (rightDigits : Digits right) : Digits (left ++ right) := by
  intro c member
  rcases List.mem_append.mp member with member | member
  · exact leftDigits c member
  · exact rightDigits c member

theorem digits_zeros (amount : Nat) : Digits (List.replicate amount '0') := by
  intro c member
  rw [List.eq_of_mem_replicate member]
  rfl

theorem digits_take (text : List Char) (amount : Nat) (digits : Digits text) :
    Digits (text.take amount) := fun c member => digits c (List.mem_of_mem_take member)

theorem digits_drop (text : List Char) (amount : Nat) (digits : Digits text) :
    Digits (text.drop amount) := fun c member => digits c (List.mem_of_mem_drop member)

theorem number_of (value : Nat) : number (Nat.toDigits 10 value) = value :=
  Nat.ofDigitChars_ten_toDigits

theorem number_zeros_after (digits : List Char) (amount : Nat) :
    number (digits ++ List.replicate amount '0') = number digits * 10 ^ amount := by
  rw [number, Nat.ofDigitChars_append, Nat.ofDigitChars_replicate_zero, Nat.mul_comm]
  rfl

theorem number_zeros_before (digits : List Char) (amount : Nat) :
    number (List.replicate amount '0' ++ digits) = number digits := by
  rw [number, Nat.ofDigitChars_append, Nat.ofDigitChars_replicate_zero, Nat.mul_zero]
  rfl

theorem numeral_whole (chars : List Char) (amount : Nat) (some : chars ≠ [])
    (digits : Digits chars) :
    Numeral (chars ++ List.replicate amount '0' ++ ['.', '0']) (value ⟨number chars, amount⟩) := by
  have shape := Numeral.point (chars ++ List.replicate amount '0') ['0']
    (List.append_ne_nil_of_left_ne_nil some _)
    (digits_append _ _ digits (digits_zeros amount)) (digits_zeros 1)
  have tens := number_zeros_after (chars ++ List.replicate amount '0') 1
  rw [number_zeros_after chars, List.replicate_one] at tens
  have same : (number chars * 10 ^ amount * 10 ^ 1 : Nat) * (10 : ℚ) ^ (-1 : Int) =
      value ⟨number chars, amount⟩ := by
    simp [value]
  rw [tens] at shape
  rw [← same]
  exact shape

theorem numeral_point (whole places : List Char) (significand : Nat) (exponent : Int)
    (some : whole ≠ []) (digits : Digits whole) (placesDigits : Digits places)
    (same : number (whole ++ places) = significand) (count : -places.length = exponent) :
    Numeral (whole ++ '.' :: places) (value ⟨significand, exponent⟩) := by
  have shape := Numeral.point whole places some digits placesDigits
  rw [same, count] at shape
  exact shape

theorem numeral_exponent (chars : List Char) (exponent : Int) (some : chars ≠ [])
    (digits : Digits chars) :
    Numeral (chars.take 1 ++ pointed (chars.drop 1) ++ 'e' :: signed (chars.length + exponent - 1))
      (value ⟨number chars, exponent⟩) := by
  have nonempty := List.length_pos_of_ne_nil some
  have leading : chars.take 1 ≠ [] := by
    intro none
    rcases List.take_eq_nil_iff.mp none with none | none
    · cases none
    · exact some none
  have shape := Numeral.exponent (chars.take 1) (chars.drop 1) (chars.length + exponent - 1) leading
    (digits_take chars 1 digits) (digits_drop chars 1 digits)
  have power : (chars.length + exponent - 1 - (chars.drop 1).length : Int) = exponent := by
    rw [List.length_drop]
    omega
  rw [List.take_append_drop, power] at shape
  exact shape

-- Each layout writes the digits of the significand with zeros around them; only the place of the
-- point differs, and with it the number of digits after it.
theorem text_numeral (decimal : Decimal) : Numeral decimal.text decimal.value := by
  obtain ⟨significand, exponent⟩ := decimal
  have digits := digits_of significand
  have total := number_of significand
  have some : Nat.toDigits 10 significand ≠ [] := Nat.toDigits_ne_nil
  unfold text
  generalize Nat.toDigits 10 significand = chars at *
  subst total
  have nonempty := List.length_pos_of_ne_nil some
  dsimp only
  split
  case isTrue whole =>
    obtain ⟨amount, rfl⟩ := Int.eq_ofNat_of_zero_le whole.1
    exact numeral_whole chars amount some digits
  case isFalse scaled =>
    split
    case isTrue inside =>
      apply numeral_point _ _ _ _ _ (digits_take _ _ digits) (digits_drop _ _ digits)
      · rw [List.take_append_drop]
      · rw [List.length_drop]
        omega
      · intro none
        rcases List.take_eq_nil_iff.mp none with none | none
        · omega
        · exact some none
    case isFalse outside =>
      split
      case isTrue small =>
        have zeros := digits_append _ _ (digits_zeros (-(chars.length + exponent)).toNat) digits
        apply numeral_point ['0'] _ _ _ (List.cons_ne_nil _ _) (digits_zeros 1) zeros
        · exact number_zeros_before chars ((-(chars.length + exponent)).toNat + 1)
        · rw [List.length_append, List.length_replicate]
          omega
      case isFalse far => exact numeral_exponent chars exponent some digits

def power : List Char → Int
  | '-' :: digits => -number digits
  | _ :: digits => number digits
  | [] => 0

def mantissa (text : List Char) : ℚ :=
  let whole := text.takeWhile (· ≠ '.')
  let places := (text.dropWhile (· ≠ '.')).drop 1
  number (whole ++ places) * 10 ^ (-places.length : Int)

def reading (text : List Char) : ℚ :=
  mantissa (text.takeWhile (· ≠ 'e')) * 10 ^ power ((text.dropWhile (· ≠ 'e')).drop 1)

theorem absent (text : List Char) (mark : Char) (digits : Digits text)
    (other : mark.isDigit = false) : ∀ c ∈ text, (c ≠ mark : Bool) = true := by
  intro c member
  have digit := digits c member
  have different : c ≠ mark := by
    intro same
    rw [same, other] at digit
    cases digit
  exact decide_eq_true different

theorem mantissa_point (whole places : List Char) (digits : Digits whole) :
    mantissa (whole ++ '.' :: places) =
      number (whole ++ places) * 10 ^ (-places.length : Int) := by
  have all := absent whole '.' digits rfl
  simp only [mantissa, List.takeWhile_append_of_pos all, List.dropWhile_append_of_pos all]
  simp

theorem mantissa_pointed (whole places : List Char) (digits : Digits whole) :
    mantissa (whole ++ pointed places) =
      number (whole ++ places) * 10 ^ (-places.length : Int) := by
  cases places with
  | nil =>
      have all := absent whole '.' digits rfl
      simp only [mantissa, pointed, List.isEmpty_nil, if_true, List.append_nil,
        List.takeWhile_eq_self_iff.mpr all, List.dropWhile_eq_nil_iff.mpr all]
      simp
  | cons place others => exact mantissa_point whole (place :: others) digits

theorem point_plain (whole places : List Char) (digits : Digits whole)
    (placesDigits : Digits places) :
    ∀ c ∈ whole ++ '.' :: places, (c ≠ 'e' : Bool) = true := by
  intro c member
  rcases List.mem_append.mp member with member | member
  · exact absent whole 'e' digits rfl c member
  · rcases List.mem_cons.mp member with rfl | member
    · rfl
    · exact absent places 'e' placesDigits rfl c member

theorem pointed_plain (whole places : List Char) (digits : Digits whole)
    (placesDigits : Digits places) :
    ∀ c ∈ whole ++ pointed places, (c ≠ 'e' : Bool) = true := by
  cases places with
  | nil =>
      have none : pointed [] = [] := rfl
      rw [none, List.append_nil]
      exact absent whole 'e' digits rfl
  | cons place others => exact point_plain whole (place :: others) digits placesDigits

theorem power_signed (exponent : Int) : power (signed exponent) = exponent := by
  by_cases negative : exponent < 0
  · rw [signed, if_pos negative, power, number_of]
    omega
  · rw [signed, if_neg negative, power, number_of]
    · omega
    · decide

theorem numeral_reads (text : List Char) (value : ℚ) (numeral : Numeral text value) :
    reading text = value := by
  cases numeral with
  | point whole places some digits placesDigits =>
      have plain := point_plain whole places digits placesDigits
      simp only [reading, List.takeWhile_eq_self_iff.mpr plain, List.dropWhile_eq_nil_iff.mpr plain,
        mantissa_point whole places digits]
      simp [power]
  | exponent whole places power some digits placesDigits =>
      have plain := pointed_plain whole places digits placesDigits
      have ten : (10 : ℚ) ≠ 0 := by norm_num
      have sum : -places.length + power = power - places.length := by omega
      simp only [reading, List.takeWhile_append_of_pos plain, List.dropWhile_append_of_pos plain]
      simp only [List.takeWhile_cons, List.dropWhile_cons, ne_eq, not_true_eq_false, decide_false,
        Bool.false_eq_true, if_false, List.append_nil, List.drop_one, List.tail_cons,
        mantissa_pointed whole places digits, power_signed]
      rw [mul_assoc, ← zpow_add₀ ten, sum]

theorem text_injective (one other : Decimal) (same : one.text = other.text) :
    one.magnitude = other.magnitude := by
  apply magnitude_of_value
  rw [← numeral_reads _ _ (text_numeral one), same, numeral_reads _ _ (text_numeral other)]

def Leading (text : List Char) : Prop := ∃ c rest, text = c :: rest ∧ c.isDigit = true

theorem digits_leading (text : List Char) (some : text ≠ []) (digits : Digits text) :
    Leading text := by
  obtain ⟨c, rest, rfl⟩ := List.exists_cons_of_ne_nil some
  exact ⟨c, rest, rfl, digits c List.mem_cons_self⟩

theorem leading_append (text rest : List Char) (leading : Leading text) :
    Leading (text ++ rest) := by
  obtain ⟨c, others, rfl, digit⟩ := leading
  exact ⟨c, others ++ rest, rfl, digit⟩

theorem numeral_leading (text : List Char) (value : ℚ) (numeral : Numeral text value) :
    Leading text := by
  cases numeral with
  | point whole places some digits =>
      exact leading_append whole _ (digits_leading whole some digits)
  | exponent whole places power some digits =>
      rw [List.append_assoc]
      exact leading_append whole _ (digits_leading whole some digits)

theorem numeral_marked (text : List Char) (value : ℚ) (numeral : Numeral text value) :
    '.' ∈ text ∨ 'e' ∈ text := by
  cases numeral with
  | point whole places => exact .inl (List.mem_append_right _ List.mem_cons_self)
  | exponent whole places power => exact .inr (List.mem_append_right _ List.mem_cons_self)

theorem minus_not_leading (text rest : List Char) (leading : Leading text) :
    '-' :: rest ≠ text := by
  rintro rfl
  obtain ⟨c, others, same, digit⟩ := leading
  rw [← (List.cons.inj same).1] at digit
  cases digit

theorem sign_injective (negative other : Prop) [Decidable negative] [Decidable other]
    (one two : List Char) (leading : Leading one) (otherLeading : Leading two)
    (same : (if negative then ['-'] else []) ++ one = (if other then ['-'] else []) ++ two) :
    (negative ↔ other) ∧ one = two := by
  by_cases minus : negative
  · by_cases otherMinus : other
    · rw [if_pos minus, if_pos otherMinus] at same
      exact ⟨iff_of_true minus otherMinus, (List.cons.inj same).2⟩
    · rw [if_pos minus, if_neg otherMinus] at same
      exact absurd same (minus_not_leading two one otherLeading)
  · by_cases otherMinus : other
    · rw [if_neg minus, if_pos otherMinus] at same
      exact absurd same.symm (minus_not_leading one two leading)
    · rw [if_neg minus, if_neg otherMinus] at same
      exact ⟨iff_of_false minus otherMinus, same⟩

end Decimal

namespace Binary64

def unsigned (magnitude : Nat) : Decimal :=
  if magnitude = 0 then ⟨0, 0⟩ else Decimal.shortest magnitude

theorem unsigned_reads (magnitude : Nat) : (unsigned magnitude).magnitude = magnitude := by
  by_cases zero : magnitude = 0
  · subst zero
    decide +kernel
  · rw [unsigned, if_neg zero, Decimal.shortest_reads]

theorem text_unsigned (value : Binary64) :
    value.text = (if value.negative then ['-'] else []) ++ (unsigned value.magnitude).text := by
  by_cases zero : value.magnitude = 0
  · rw [text, if_pos zero, unsigned, if_pos zero]
    rfl
  · rw [text, if_neg zero, unsigned, if_neg zero]

theorem fraction_text_injective (one other : Binary64) (same : one.text = other.text) :
    one = other := by
  obtain ⟨negative, magnitude, finite⟩ := one
  obtain ⟨otherNegative, otherMagnitude, otherFinite⟩ := other
  rw [text_unsigned, text_unsigned] at same
  obtain ⟨sign, digits⟩ := Decimal.sign_injective _ _ _ _
    (Decimal.numeral_leading _ _ (Decimal.text_numeral _))
    (Decimal.numeral_leading _ _ (Decimal.text_numeral _)) same
  have magnitudes := Decimal.text_injective _ _ digits
  rw [unsigned_reads, unsigned_reads] at magnitudes
  subst magnitudes
  have signs : negative = otherNegative := Bool.eq_iff_iff.mpr sign
  subst signs
  rfl

end Binary64

end RequestLayer
