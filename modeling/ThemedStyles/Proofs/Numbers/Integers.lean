import ThemedStyles.Binary64

namespace ThemedStyles
namespace Binary64

/-!
# Integers among the binary numbers

Every integer of 64 bits rounds to a finite number.  Rounding moves a number by
less than its own size, and the limit of the format is far beyond that.
-/

/-- Rounding at most doubles a number, or makes one of zero. -/
theorem roundQuotient_le (dividend divisor : Nat) :
    roundQuotient dividend divisor ≤ 2 * (dividend / divisor) + 1 := by
  let quotient := dividend / divisor
  let scale := Nat.pow 2 (quotient.log2 - 52)
  have unit : scale ≤ quotient + 1 := by
    rcases Nat.eq_zero_or_pos quotient with zero | positive
    · change Nat.pow 2 (quotient.log2 - 52) ≤ quotient + 1
      rw [zero]
      decide
    · calc scale ≤ 2 ^ quotient.log2 := Nat.pow_le_pow_right Nat.two_pos (Nat.sub_le _ _)
        _ ≤ quotient := Nat.log2_self_le (Nat.ne_of_gt positive)
        _ ≤ quotient + 1 := Nat.le_succ _
  have down : dividend / (divisor * scale) * scale ≤ quotient := by
    rw [← Nat.div_div_eq_div_mul]
    exact Nat.div_mul_le_self _ _
  have rounded : roundQuotient dividend divisor ≤ (dividend / (divisor * scale) + 1) * scale := by
    unfold roundQuotient
    refine Nat.mul_le_mul_right _ ?_
    split
    · exact Nat.le_refl _
    · exact Nat.le_succ _
  rw [Nat.add_mul, Nat.one_mul] at rounded
  omega

/-- Room for one more factor of two, whatever the powers are. -/
theorem double_scaled_lt {value small unit large total : Nat} (below : value < Nat.pow 2 small)
    (room : small < large) (sum : large + unit = total) :
    2 * (value * Nat.pow 2 unit) + 1 < Nat.pow 2 total := by
  have positive : 0 < Nat.pow 2 unit := Nat.pow_pos Nat.two_pos
  have scaled : (value + 1) * Nat.pow 2 unit ≤ Nat.pow 2 small * Nat.pow 2 unit :=
    Nat.mul_le_mul_right _ below
  have doubled : Nat.pow 2 (small + 1) ≤ Nat.pow 2 large := Nat.pow_le_pow_right Nat.two_pos room
  calc 2 * (value * Nat.pow 2 unit) + 1
      < 2 * ((value + 1) * Nat.pow 2 unit) := by
        rw [Nat.add_mul]
        omega
    _ ≤ 2 * (Nat.pow 2 small * Nat.pow 2 unit) := Nat.mul_le_mul_left 2 scaled
    _ = Nat.pow 2 (small + 1) * Nat.pow 2 unit := by
        rw [← Nat.mul_assoc, Nat.mul_comm 2]
        rfl
    _ ≤ Nat.pow 2 large * Nat.pow 2 unit := Nat.mul_le_mul_right _ doubled
    _ = Nat.pow 2 total := by
        rw [← sum]
        exact (Nat.pow_add 2 large unit).symm

theorem ofDecimal_zero_exponent (negative : Bool) {digits : Nat} (positive : digits ≠ 0) :
    ofDecimal negative digits 0 =
      ofUnits negative (roundQuotient (digits * Nat.pow 10 0 * one) 1) := by
  have known : ¬ ((0 : Int) + digits.log2 < -401) := by omega
  rw [ofDecimal, if_neg positive, if_neg (by decide), if_neg known, if_pos (Int.le_refl 0)]
  rfl

theorem isFinite_ofUnits (negative : Bool) {units : Nat} (small : units < limit) :
    (ofUnits negative units).isFinite = true := by
  rw [ofUnits, if_pos small, isFinite]

/-- All integers of 64 bits, signed or not, are within range. -/
theorem isFinite_ofInt {value : Int} (small : value.natAbs < Nat.pow 2 64) :
    (ofInt value).isFinite = true := by
  rw [ofInt]
  by_cases zero : value.natAbs = 0
  · rw [zero]
    rfl
  · have unscaled : value.natAbs * Nat.pow 10 0 = value.natAbs := Nat.mul_one _
    have rounded := roundQuotient_le (value.natAbs * one) 1
    rw [Nat.div_one] at rounded
    have room : 2 * (value.natAbs * one) + 1 < limit := by
      apply double_scaled_lt small
      · exact (by decide : 64 < 1024)
      · rfl
    rw [ofDecimal_zero_exponent _ zero, unscaled]
    exact isFinite_ofUnits _ (Nat.lt_of_le_of_lt rounded room)

end Binary64
end ThemedStyles
