/-
**Whole numbers as doubles.**

* `unitsOf_magnitudeOfNat`: a natural number becomes the pattern of the nearest double;
* `isNaN_ofInt`: no whole number of 64 bits becomes a not-a-number;
* `order?_ofInt_rounded`: doubles made of whole numbers compare as the numbers do after rounding, and
  `order?_ofInt` as the numbers do where all of these are doubles.
-/

import Polystore.Proofs.Number.Rounding

namespace Polystore.Binary64

/-! ### The pattern of a natural number -/

section Naturals

variable {size : Nat}

/-- The number one, counted in the least positive double. -/
def unitsOfOne : Nat := 2 ^ 1074

theorem unitsOfOne_eq {exponent : Nat} (least : exponent = 1074) : unitsOfOne = 2 ^ exponent := by
  rw [least, unitsOfOne]

theorem unitsOfOne_pos : 0 < unitsOfOne := by
  obtain ⟨exponent, least⟩ : ∃ exponent, exponent = 1074 := ⟨_, rfl⟩
  rw [unitsOfOne_eq least]
  exact Nat.two_pow_pos exponent

/-- Digits of 53 places, or the next power of two, carry into the field of the exponent in front of them;
the number is the digits times the power that this field counts. -/
theorem unitsOf_digits {digits : Nat} (field : Nat) (filled : exponentUnit ≤ digits)
    (short : digits ≤ 2 * exponentUnit) :
    unitsOf (field * exponentUnit + digits) = digits * 2 ^ field := by
  rcases Nat.lt_or_eq_of_le short with less | rfl
  · have parts : field * exponentUnit + digits =
        (field + 1) * exponentUnit + (digits - exponentUnit) := by
      rw [Nat.succ_mul, Nat.add_assoc, Nat.add_sub_cancel' filled]
    rw [parts, unitsOf_parts (field + 1) (by omega), if_neg (Nat.succ_ne_zero field),
      Nat.add_sub_cancel' filled, Nat.add_sub_cancel]
  · have parts : field * exponentUnit + 2 * exponentUnit = (field + 2) * exponentUnit + 0 := by
      rw [Nat.add_zero ((field + 2) * exponentUnit), Nat.add_mul]
    rw [parts, unitsOf_parts (field + 2) (by decide), if_neg (Nat.succ_ne_zero _), Nat.add_zero]
    calc exponentUnit * 2 ^ (field + 1) = exponentUnit * (2 * 2 ^ field) := by rw [Nat.pow_succ']
      _ = 2 * exponentUnit * 2 ^ field := by rw [← Nat.mul_assoc, Nat.mul_comm exponentUnit 2]

/-- The leading 53 digits of a natural number, rounded, or its digits with zeros behind them if it has
fewer. -/
def significand (size : Nat) : Nat :=
  if size.log2 ≤ 52 then size * 2 ^ (52 - size.log2) else roundHalfEven size (spacing size)

/-- The pattern of a natural number in its parts. -/
theorem magnitudeOfNat_eq (positive : size ≠ 0) :
    magnitudeOfNat size = (size.log2 + 1022) * exponentUnit + significand size := by
  rw [magnitudeOfNat, if_neg positive, significand]
  simp only
  split <;> rfl

theorem le_significand (positive : size ≠ 0) : exponentUnit ≤ significand size := by
  have least : 2 ^ size.log2 ≤ size := Nat.log2_self_le positive
  unfold significand
  split
  · rename_i short
    calc exponentUnit = 2 ^ (size.log2 + (52 - size.log2)) := by
          rw [Nat.add_sub_cancel' short]
          rfl
      _ = 2 ^ size.log2 * 2 ^ (52 - size.log2) := Nat.pow_add _ _ _
      _ ≤ size * 2 ^ (52 - size.log2) := Nat.mul_le_mul_right _ least
  · have digits : exponentUnit ≤ size / spacing size := by
      refine (Nat.le_div_iff_mul_le (spacing_pos size)).mpr (Nat.le_trans (Nat.le_of_eq ?_) least)
      calc exponentUnit * spacing size = 2 ^ (52 + (size.log2 - 52)) := (Nat.pow_add 2 52 _).symm
        _ = 2 ^ size.log2 := by rw [Nat.add_sub_cancel' (by omega)]
    rcases roundHalfEven_cases size (spacing size) with ⟨taken, -⟩ | ⟨taken, -⟩ <;> omega

theorem significand_le (size : Nat) : significand size ≤ 2 * exponentUnit := by
  unfold significand
  split
  · rename_i short
    calc size * 2 ^ (52 - size.log2) ≤ 2 ^ (size.log2 + 1) * 2 ^ (52 - size.log2) :=
          Nat.mul_le_mul_right _ (Nat.le_of_lt Nat.lt_log2_self)
      _ = 2 ^ (size.log2 + (52 - size.log2) + 1) := by rw [← Nat.pow_add, Nat.add_right_comm]
      _ = 2 * exponentUnit := by
          rw [Nat.add_sub_cancel' short]
          rfl
  · exact roundHalfEven_spacing_le size

/-- The significand is the rounded number without the zeros behind it. -/
theorem significand_mul (size : Nat) :
    significand size * 2 ^ (size.log2 + 1022) = roundedNat size * unitsOfOne := by
  unfold significand
  split
  · rename_i short
    have single : spacing size = 1 := by
      rw [spacing, Nat.sub_eq_zero_of_le short, Nat.pow_zero]
    have exponent : 52 - size.log2 + (size.log2 + 1022) = 1074 := by omega
    rw [roundedNat, single, roundHalfEven_one, Nat.mul_one, unitsOfOne_eq exponent, Nat.mul_assoc,
      ← Nat.pow_add]
  · have exponent : size.log2 + 1022 - (size.log2 - 52) = 1074 := by omega
    rw [roundedNat, unitsOfOne_eq exponent, Nat.mul_assoc, spacing, ← Nat.pow_add,
      Nat.add_sub_cancel' (by omega)]

/-- **A natural number becomes the pattern of the nearest double.** -/
theorem unitsOf_magnitudeOfNat (size : Nat) :
    unitsOf (magnitudeOfNat size) = roundedNat size * unitsOfOne := by
  by_cases zero : size = 0
  · subst zero
    have nothing : roundedNat 0 = 0 := rfl
    rw [nothing, Nat.zero_mul]
    rfl
  · rw [magnitudeOfNat_eq zero, unitsOf_digits _ (le_significand zero) (significand_le size),
      significand_mul]

/-- Whole numbers of 64 bits round to less than infinity. -/
theorem magnitudeOfNat_le_of_lt (small : size < 2 ^ 64) : magnitudeOfNat size ≤ 1100 * exponentUnit := by
  by_cases zero : size = 0
  · subst zero
    exact Nat.zero_le _
  · have short := significand_le size
    have exponent : size.log2 < 64 := (Nat.log2_lt zero).mpr small
    rw [magnitudeOfNat_eq zero]
    unfold exponentUnit at *
    omega

end Naturals

section Integers

variable {number : Int}

/-- The bits of a double made of a whole number. -/
theorem toNat_ofInt (small : number.natAbs < 2 ^ 64) :
    (ofInt number).bits.toNat =
      if number < 0 then signUnit + magnitudeOfNat number.natAbs else magnitudeOfNat number.natAbs := by
  have bound := magnitudeOfNat_le_of_lt small
  have fits : (if number < 0 then signUnit + magnitudeOfNat number.natAbs
      else magnitudeOfNat number.natAbs) < 2 ^ 64 := by
    unfold signUnit exponentUnit at *
    split <;> omega
  rw [ofInt, ofParts]
  simp only [decide_eq_true_eq]
  exact UInt64.toNat_ofNat_of_lt' fits

theorem magnitude_ofInt (small : number.natAbs < 2 ^ 64) :
    (ofInt number).magnitude = magnitudeOfNat number.natAbs := by
  have bound := magnitudeOfNat_le_of_lt small
  rw [magnitude, toNat_ofInt small]
  unfold signUnit exponentUnit at *
  split <;> omega

theorem isNegative_ofInt (small : number.natAbs < 2 ^ 64) :
    (ofInt number).isNegative = decide (number < 0) := by
  have bound := magnitudeOfNat_le_of_lt small
  rw [isNegative, toNat_ofInt small]
  unfold signUnit exponentUnit at *
  split
  · simp_all
  · simp_all
    omega

/-- No whole number becomes a not-a-number. -/
theorem isNaN_ofInt (small : number.natAbs < 2 ^ 64) : (ofInt number).isNaN = false := by
  have bound := magnitudeOfNat_le_of_lt small
  rw [isNaN, magnitude_ofInt small]
  unfold infinityMagnitude exponentUnit at *
  simp only [decide_eq_false_iff_not]
  omega

theorem key_ofInt (small : number.natAbs < 2 ^ 64) :
    (ofInt number).key = mirrored magnitudeOfNat number := by
  rw [key, isNegative_ofInt small, magnitude_ofInt small]
  simp only [decide_eq_true_eq]
  rfl

/-- The number that a double made of a whole number is. -/
theorem value_ofInt (small : number.natAbs < 2 ^ 64) :
    (ofInt number).value = rounded number * unitsOfOne := by
  rw [value_eq_mirrored, key_ofInt small, mirrored_mirrored rfl]
  simp only [unitsOf_magnitudeOfNat]
  unfold rounded mirrored
  rw [ite_mul, Int.neg_mul, Int.natCast_mul]

/-- **Doubles made of whole numbers compare as the numbers do after rounding.** -/
theorem order?_ofInt_rounded {left right : Int} (leftSmall : left.natAbs < 2 ^ 64)
    (rightSmall : right.natAbs < 2 ^ 64) :
    (ofInt left).order? (ofInt right) = some (compare (rounded left) (rounded right)) := by
  have positive : (0 : Int) < unitsOfOne := Int.natCast_pos.mpr unitsOfOne_pos
  rw [order?_eq_compare_value (isNaN_ofInt leftSmall) (isNaN_ofInt rightSmall), value_ofInt leftSmall,
    value_ofInt rightSmall, compare_of_growing fun less => Int.mul_lt_mul_of_pos_right less positive]

/-- Whole numbers that are doubles have 64 bits. -/
theorem lt_of_le_exactLimit {size : Nat} (small : size ≤ exactLimit) : size < 2 ^ 64 :=
  Nat.lt_of_le_of_lt small (by decide)

/-- **Doubles made of whole numbers that are doubles compare as the numbers do.** -/
theorem order?_ofInt {left right : Int} (leftSmall : left.natAbs ≤ exactLimit)
    (rightSmall : right.natAbs ≤ exactLimit) :
    (ofInt left).order? (ofInt right) = some (compare left right) := by
  rw [order?_ofInt_rounded (lt_of_le_exactLimit leftSmall) (lt_of_le_exactLimit rightSmall),
    rounded_eq_self_iff.mpr (isDouble_of_le leftSmall), rounded_eq_self_iff.mpr (isDouble_of_le rightSmall)]

end Integers

end Polystore.Binary64
