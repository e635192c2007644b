import Mathlib.Algebra.Field.Rat
import Mathlib.Data.Rat.Cast.Lemmas
import Mathlib.Tactic.FieldSimp
import Mathlib.Tactic.Ring
import RequestLayer.Decimal.Shortest

set_option autoImplicit false

namespace RequestLayer

namespace Binary64

theorem rounded_scaled (numerator denominator factor : Nat) (positive : 0 < factor) :
    roundedQuotient (numerator * factor) (denominator * factor) =
      roundedQuotient numerator denominator := by
  have quotient : numerator * factor / (denominator * factor) = numerator / denominator :=
    Nat.mul_div_mul_right numerator denominator positive
  have left : 2 * (numerator * factor % (denominator * factor)) =
      2 * (numerator % denominator) * factor := by
    rw [Nat.mul_mod_mul_right, Nat.mul_assoc]
  simp only [roundedQuotient, quotient, left, Nat.mul_lt_mul_right positive]

theorem nearest_scaled (numerator denominator factor : Nat) (positive : 0 < factor) :
    nearest (numerator * factor) (denominator * factor) = nearest numerator denominator := by
  have scaled : numerator * factor * unitsPerOne = numerator * unitsPerOne * factor :=
    Nat.mul_right_comm numerator factor unitsPerOne
  have divisor (shift : Nat) : denominator * factor * Nat.pow 2 shift =
      denominator * Nat.pow 2 shift * factor := Nat.mul_right_comm denominator factor _
  simp only [nearest, scaled, Nat.mul_div_mul_right _ _ positive, divisor,
    rounded_scaled _ _ _ positive]

theorem nearest_congr (numerator denominator other below : Nat) (positive : 0 < denominator)
    (otherPositive : 0 < below) (same : numerator * below = other * denominator) :
    nearest numerator denominator = nearest other below := by
  calc nearest numerator denominator
      = nearest (numerator * below) (denominator * below) :=
        (nearest_scaled _ _ below otherPositive).symm
    _ = nearest (other * denominator) (below * denominator) := by
        rw [same, Nat.mul_comm denominator below]
    _ = nearest other below := nearest_scaled _ _ denominator positive

theorem rounded_exact (quotient denominator : Nat) (positive : 0 < denominator) :
    roundedQuotient (quotient * denominator) denominator = quotient := by
  simp [roundedQuotient, Nat.mul_div_cancel _ positive, positive]

theorem rounded_neighbour (numerator denominator : Nat) :
    roundedQuotient numerator denominator = numerator / denominator ∨
      roundedQuotient numerator denominator = numerator / denominator + 1 := by
  simp only [roundedQuotient]
  split
  · exact .inl rfl
  · split
    · exact .inr rfl
    · omega

theorem units_per_one_positive : 0 < unitsPerOne := by decide +kernel

theorem implicit_bit : implicitBit = 2 ^ 52 := rfl

-- The significand of a normal number has 53 bits, so its leading bit tells the power of two.
theorem log_units (magnitude : Nat) (normal : implicitBit ≤ magnitude) :
    (units magnitude).log2 - 52 = magnitude / implicitBit - 1 := by
  have whole : units magnitude =
      (implicitBit + magnitude % implicitBit) * 2 ^ (magnitude / implicitBit - 1) :=
    if_neg (Nat.not_lt.mpr normal)
  have rest : magnitude % implicitBit < implicitBit := Nat.mod_lt _ (by decide)
  generalize magnitude / implicitBit - 1 = shift at whole ⊢
  have above : 2 ^ (52 + shift) ≤ units magnitude := by
    rw [whole, Nat.pow_add]
    exact Nat.mul_le_mul_right _ (Nat.le_add_right _ _)
  have below : units magnitude < 2 ^ (52 + shift + 1) := by
    have split : 2 ^ (52 + shift + 1) = (implicitBit + implicitBit) * 2 ^ shift := by
      rw [implicit_bit]
      ring
    rw [whole, split]
    exact Nat.mul_lt_mul_of_pos_right (Nat.add_lt_add_left rest _) (Nat.two_pow_pos shift)
  have positive : units magnitude ≠ 0 :=
    Nat.ne_of_gt (Nat.lt_of_lt_of_le (Nat.two_pow_pos _) above)
  have log : (units magnitude).log2 = 52 + shift := (Nat.log2_eq_iff positive).mpr ⟨above, below⟩
  omega

theorem nearest_whole (amount : Nat) :
    nearest amount unitsPerOne =
      (amount.log2 - 52) * implicitBit + roundedQuotient amount (2 ^ (amount.log2 - 52)) := by
  have scaled : amount * unitsPerOne / unitsPerOne = amount :=
    Nat.mul_div_cancel amount units_per_one_positive
  have rounded := rounded_scaled amount (2 ^ (amount.log2 - 52)) unitsPerOne units_per_one_positive
  rw [Nat.mul_comm (2 ^ _)] at rounded
  simp only [nearest, scaled, Nat.pow_eq, rounded]

theorem nearest_units (magnitude : Nat) : nearest (units magnitude) unitsPerOne = magnitude := by
  rw [nearest_whole]
  by_cases small : magnitude < implicitBit
  · have whole : units magnitude = magnitude := if_pos small
    have short : magnitude.log2 - 52 = 0 := by
      by_cases zero : magnitude = 0
      · subst zero
        rfl
      · have below := (Nat.log2_lt zero).mpr small
        omega
    have exactly := rounded_exact magnitude 1 Nat.one_pos
    rw [Nat.mul_one] at exactly
    rw [whole, short, Nat.pow_zero, exactly, Nat.zero_mul, Nat.zero_add]
  · have normal : implicitBit ≤ magnitude := Nat.not_lt.mp small
    have whole : units magnitude =
        (implicitBit + magnitude % implicitBit) * 2 ^ (magnitude / implicitBit - 1) := if_neg small
    have exactly := rounded_exact (implicitBit + magnitude % implicitBit)
      (2 ^ (magnitude / implicitBit - 1)) (Nat.two_pow_pos _)
    have quotient : 1 ≤ magnitude / implicitBit := (Nat.one_le_div_iff (by decide)).mpr normal
    rw [log_units magnitude normal, whole, exactly]
    calc (magnitude / implicitBit - 1) * implicitBit + (implicitBit + magnitude % implicitBit)
        = (magnitude / implicitBit - 1 + 1) * implicitBit + magnitude % implicitBit := by ring
      _ = magnitude := by rw [Nat.sub_add_cancel quotient, Nat.div_add_mod']

end Binary64

namespace Decimal

def value (decimal : Decimal) : ℚ := decimal.significand * 10 ^ decimal.exponent

theorem fraction_positive (decimal : Decimal) : 0 < decimal.fraction.2 := by
  unfold fraction
  split
  · exact Nat.one_pos
  · exact Nat.pow_pos (by decide)

theorem value_eq_fraction (decimal : Decimal) :
    decimal.value = decimal.fraction.1 / decimal.fraction.2 := by
  unfold value fraction
  cases exponent : decimal.exponent with
  | ofNat power => simp
  | negSucc power => simp [zpow_negSucc, div_eq_mul_inv]

theorem magnitude_of_value (one other : Decimal) (same : one.value = other.value) :
    one.magnitude = other.magnitude := by
  have below : (one.fraction.2 : ℚ) ≠ 0 := by exact_mod_cast (fraction_positive one).ne'
  have otherBelow : (other.fraction.2 : ℚ) ≠ 0 := by exact_mod_cast (fraction_positive other).ne'
  rw [value_eq_fraction, value_eq_fraction, div_eq_div_iff below otherBelow] at same
  exact Binary64.nearest_congr _ _ _ _ (fraction_positive one) (fraction_positive other)
    (by exact_mod_cast same)

theorem value_shift (significand : Nat) (exponent : Int) :
    value ⟨significand * 10, exponent⟩ = value ⟨significand, exponent + 1⟩ := by
  simp only [value, Nat.cast_mul, Nat.cast_ofNat, zpow_add_one₀ (by norm_num : (10 : ℚ) ≠ 0)]
  ring

theorem trimmed_value (significand : Nat) (exponent : Int) :
    (trimmed significand exponent).value = value ⟨significand, exponent⟩ := by
  induction significand, exponent using trimmed.induct with
  | case1 significand exponent zeros ih =>
      rw [trimmed, if_pos zeros, ih, ← value_shift, Nat.div_mul_cancel (Nat.dvd_of_mod_eq_zero zeros.2)]
  | case2 significand exponent last => rw [trimmed, if_neg last]

theorem trimmed_reads (decimal : Decimal) :
    (trimmed decimal.significand decimal.exponent).magnitude = decimal.magnitude :=
  magnitude_of_value _ _ (trimmed_value decimal.significand decimal.exponent)

theorem magnitude_below_one (significand power : Nat) :
    magnitude ⟨significand, .negSucc power⟩ =
      Binary64.nearest significand (Nat.pow 10 (power + 1)) := rfl

theorem exact_digits (magnitude : Nat) :
    exact magnitude = ⟨Binary64.units magnitude * Nat.pow 5 1074, .negSucc 1073⟩ := rfl

theorem powers_of_ten : Nat.pow 10 (1073 + 1) = Binary64.unitsPerOne * Nat.pow 5 1074 := by
  decide +kernel

theorem power_of_five_positive : 0 < Nat.pow 5 1074 := by decide +kernel

theorem exact_reads (magnitude : Nat) : (exact magnitude).magnitude = magnitude := by
  rw [exact_digits, magnitude_below_one, powers_of_ten]
  rw [Binary64.nearest_scaled _ _ _ power_of_five_positive, Binary64.nearest_units]

theorem neighbour_reads (readsBack : Decimal → Bool) (numerator denominator : Nat) (exponent : Int)
    (decimal : Decimal)
    (found : neighbour? readsBack numerator denominator exponent = some decimal) :
    readsBack decimal = true := by
  have near := Binary64.rounded_neighbour numerator denominator
  unfold neighbour? at found
  cases below : readsBack ⟨numerator / denominator, exponent⟩ with
  | true =>
      cases above : readsBack ⟨numerator / denominator + 1, exponent⟩ with
      | true =>
          simp only [below, above, Option.some.injEq] at found
          rcases near with near | near
          · rw [← found, near]
            exact below
          · rw [← found, near]
            exact above
      | false =>
          simp only [below, above, Option.some.injEq] at found
          rw [← found]
          exact below
  | false =>
      cases above : readsBack ⟨numerator / denominator + 1, exponent⟩ with
      | true =>
          simp only [below, above, Option.some.injEq] at found
          rw [← found]
          exact above
      | false => simp only [below, above, reduceCtorEq] at found

theorem on_grid_reads (magnitude : Nat) (exponent : Int) (decimal : Decimal)
    (found : onGrid? magnitude exponent = some decimal) : decimal.magnitude = magnitude := by
  unfold onGrid? at found
  have readsBack := neighbour_reads _ _ _ _ decimal found
  exact eq_of_beq readsBack

theorem shortest_reads (magnitude : Nat) : (shortest magnitude).magnitude = magnitude := by
  unfold shortest
  dsimp only
  rw [trimmed_reads]
  cases found : (List.range 17).findSome? fun (more : Nat) =>
      onGrid? magnitude (leadingPower magnitude - more) with
  | none =>
      rw [Option.getD_none]
      exact exact_reads magnitude
  | some decimal =>
      obtain ⟨more, _, grid⟩ := List.exists_of_findSome?_eq_some found
      rw [Option.getD_some]
      exact on_grid_reads magnitude _ decimal grid

end Decimal

end RequestLayer
