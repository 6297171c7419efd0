/-
**The shortest digits of a double tell it from every other one.**

What rounds to a double lies between the points halfway to its neighbours, and on such a point only if the
double is even. The search takes the first grid with a point in that interval. There is one among the grids
that it looks at, since the last of them is finer than half of the interval.

* `Interval.holds_iff`: what the search compares are the numbers themselves;
* `contains_decimal`: the digits that it finds are those of a number in the interval;
* `magnitude_eq_of_contains`: no number lies in the intervals of two doubles.
-/

import Mathlib.Algebra.Order.Field.Power
import Mathlib.Tactic.NormNum
import Mathlib.Tactic.Ring
import Polystore.Number.Shortest
import Polystore.Proofs.Number.Rounding

namespace Polystore

open Binary64

namespace Shortest

/-- The number that a decimal is. -/
def Decimal.value (decimal : Decimal) : ℚ := decimal.digits * 10 ^ decimal.exponent

/-- The number that an interval counts with some of its units. -/
def Interval.mark (interval : Interval) (units : Nat) : ℚ := units * 2 ^ interval.exponent

/-- Whether a number lies in an interval. -/
def Interval.Contains (interval : Interval) (number : ℚ) : Prop :=
  if interval.closed then
    interval.mark interval.low ≤ number ∧ number ≤ interval.mark interval.high
  else interval.mark interval.low < number ∧ number < interval.mark interval.high

section Grids

variable {interval : Interval} {tie : Tie} {place : Int} {steps : Nat}

/-- A power times what its inverse would be, if either is whole. -/
theorem zpow_mul_pow_neg_toNat {base : ℚ} (present : base ≠ 0) (exponent : Int) :
    base ^ exponent * base ^ (-exponent).toNat = base ^ exponent.toNat := by
  rw [← zpow_natCast, ← zpow_natCast, ← zpow_add₀ present]
  congr 1
  omega

/-- What both sides of a comparison are multiplied with to make them whole. -/
def Interval.scale (interval : Interval) (place : Int) : ℚ :=
  2 ^ (-interval.exponent).toNat * 10 ^ (-place).toNat

theorem Interval.scale_pos (interval : Interval) (place : Int) : 0 < interval.scale place := by
  unfold scale
  positivity

theorem Interval.cast_numerator (interval : Interval) (place : Int) (units : Nat) :
    (interval.numerator place units : ℚ) = interval.mark units * interval.scale place := by
  have two := zpow_mul_pow_neg_toNat (two_ne_zero (α := ℚ)) interval.exponent
  simp only [numerator, mark, scale, Nat.pow_eq, Nat.cast_mul, Nat.cast_pow, Nat.cast_ofNat]
  rw [← two]
  ring

theorem Interval.cast_denominator (interval : Interval) (place : Int) (steps : Nat) :
    ((steps * interval.denominator place : Nat) : ℚ) = steps * 10 ^ place * interval.scale place := by
  have ten := zpow_mul_pow_neg_toNat (show (10 : ℚ) ≠ 0 by norm_num) place
  simp only [denominator, scale, Nat.pow_eq, Nat.cast_mul, Nat.cast_pow, Nat.cast_ofNat]
  rw [← ten]
  ring

theorem Interval.numerator_le_iff {units : Nat} :
    interval.numerator place units ≤ steps * interval.denominator place ↔
      interval.mark units ≤ steps * 10 ^ place := by
  rw [← Nat.cast_le (α := ℚ), cast_numerator, cast_denominator,
    mul_le_mul_iff_of_pos_right (interval.scale_pos place)]

theorem Interval.le_numerator_iff {units : Nat} :
    steps * interval.denominator place ≤ interval.numerator place units ↔
      steps * 10 ^ place ≤ interval.mark units := by
  rw [← Nat.cast_le (α := ℚ), cast_numerator, cast_denominator,
    mul_le_mul_iff_of_pos_right (interval.scale_pos place)]

/-- **A point of a grid lies in an interval as the number does that it is.** -/
theorem Interval.holds_iff :
    interval.holds place steps = true ↔ interval.Contains (steps * 10 ^ place) := by
  simp only [holds, Contains]
  split
  · rw [Bool.and_eq_true, decide_eq_true_eq, decide_eq_true_eq, numerator_le_iff, le_numerator_iff]
  · rw [Bool.and_eq_true, decide_eq_true_eq, decide_eq_true_eq, ← not_le, ← not_le, le_numerator_iff,
      numerator_le_iff, not_le, not_le]

theorem Interval.holds_of_onGrid? (found : interval.onGrid? tie place = some steps) :
    interval.holds place steps = true := by
  simp only [onGrid?] at found
  generalize interval.numerator place interval.centre / interval.denominator place = below at found
  -- Which of two points is nearer does not matter.
  generalize (decide (interval.denominator place < _) || _) = nearer at found
  cases lower : interval.holds place below <;> cases upper : interval.holds place (below + 1) <;>
    rw [lower, upper] at found
  · cases found
  · exact Option.some.inj found ▸ upper
  · exact Option.some.inj found ▸ lower
  · obtain rfl := Option.some.inj found
    split
    · exact upper
    · exact lower

/-- A grid with the point above the centre in the interval is not skipped. -/
theorem Interval.exists_onGrid? (above : interval.holds place
      (interval.numerator place interval.centre / interval.denominator place + 1) = true) :
    ∃ steps, interval.onGrid? tie place = some steps := by
  simp only [onGrid?]
  rw [above]
  cases interval.holds place (interval.numerator place interval.centre / interval.denominator place) with
  | false => exact ⟨_, rfl⟩
  | true => exact ⟨_, rfl⟩

/-- **The search finds a point of the interval** if one of its grids has one. -/
theorem Interval.holds_search {fuel skipped : Nat} (within : skipped < fuel)
    (found : ∃ steps, interval.onGrid? tie (place - skipped) = some steps) :
    interval.Contains (interval.search tie fuel place).value := by
  induction fuel generalizing place skipped with
  | zero => cases within
  | succ fuel hypothesis =>
    rw [search]
    cases here : interval.onGrid? tie place with
    | some steps => exact holds_iff.mp (holds_of_onGrid? here)
    | none =>
      cases skipped with
      | zero =>
        obtain ⟨steps, found⟩ := found
        rw [Nat.cast_zero, Int.sub_zero, here] at found
        cases found
      | succ skipped =>
        refine hypothesis (Nat.lt_of_succ_lt_succ within) ?_
        rwa [show place - 1 - (skipped : Int) = place - (skipped + 1 : Nat) by omega]

end Grids

/-- A power of ten is less than one of two if its exponent is less than three tenths of the other one. -/
theorem ten_zpow_lt_two_zpow {place exponent : Int} (far : 100000 * place + 170000 ≤ 30103 * exponent)
    (least : -2000 ≤ exponent) (greatest : exponent ≤ 2000) : (10 : ℚ) ^ place < 2 ^ exponent := by
  rcases Int.le_total 0 exponent with positive | negative
  · have whole : ((10 : ℚ) ^ place) ^ 196 < (2 ^ exponent) ^ 196 := by
      calc ((10 : ℚ) ^ place) ^ 196 = 10 ^ (place * 196) := by rw [zpow_mul]; rfl
        _ < 10 ^ (59 * exponent) := zpow_lt_zpow_right₀ (by norm_num) (by omega)
        _ = (10 ^ 59) ^ exponent := by rw [zpow_mul]; rfl
        _ ≤ (2 ^ 196) ^ exponent := zpow_le_zpow_left₀ positive (by positivity) (by norm_num)
        _ = (2 ^ exponent) ^ 196 := by rw [← zpow_natCast, ← zpow_natCast, zpow_comm]
    exact lt_of_pow_lt_pow_left₀ 196 (by positivity) whole
  · have whole : ((10 : ℚ) ^ place) ^ 93 < (2 ^ exponent) ^ 93 := by
      calc ((10 : ℚ) ^ place) ^ 93 = 10 ^ (place * 93) := by rw [zpow_mul]; rfl
        _ < 10 ^ (28 * exponent) := zpow_lt_zpow_right₀ (by norm_num) (by omega)
        _ = (10 ^ 28) ^ exponent := by rw [zpow_mul]; rfl
        _ ≤ (2 ^ 93) ^ exponent := by
          obtain ⟨size, rfl⟩ := Int.exists_eq_neg_ofNat negative
          rw [zpow_neg, zpow_neg]
          exact inv_anti₀ (by positivity)
            (zpow_le_zpow_left₀ (Int.natCast_nonneg size) (by positivity) (by norm_num))
        _ = (2 ^ exponent) ^ 93 := by rw [← zpow_natCast, ← zpow_natCast, zpow_comm]
    exact lt_of_pow_lt_pow_left₀ 93 (by positivity) whole

/-! ### Intervals of doubles -/

section Doubles

variable {number other : Binary64} {tie : Tie} {value : ℚ}

/-- The steps between doubles are as wide as the exponent of a double says. -/
theorem Interval.exponent_of (number : Binary64) :
    (Interval.of number).exponent + 1076 = (number.magnitude / exponentUnit - 1 : Nat) := by
  simp only [Interval.of, mantissaExponent]
  generalize number.magnitude / exponentUnit = field
  split
  · omega
  · simp only
    omega

/-- The mantissa of a double is its number without the power of two. -/
theorem unitsOf_eq_mantissa (number : Binary64) :
    unitsOf number.magnitude =
      number.mantissaExponent.1 * 2 ^ (number.magnitude / exponentUnit - 1) := by
  rw [unitsOf_magnitude]
  congr 2
  unfold mantissaExponent
  simp only
  split <;> omega

theorem Interval.mark_of (number : Binary64) (units : Nat) :
    (Interval.of number).mark units * 2 ^ 1076 =
      (units * 2 ^ (number.magnitude / exponentUnit - 1) : Nat) := by
  have scaled : (2 : ℚ) ^ (Interval.of number).exponent * 2 ^ 1076 =
      2 ^ (number.magnitude / exponentUnit - 1) := by
    rw [← zpow_natCast, ← zpow_natCast, ← zpow_add₀ two_ne_zero]
    exact congrArg _ (Interval.exponent_of number)
  rw [mark, mul_assoc, scaled]
  push_cast
  rfl

/-- An interval ends halfway to the next double. -/
theorem Interval.high_of (number : Binary64) :
    (Interval.of number).high * 2 ^ (number.magnitude / exponentUnit - 1) =
      2 * (unitsOf number.magnitude + unitsOf (number.magnitude + 1)) := by
  have high : (Interval.of number).high = 4 * number.mantissaExponent.1 + 2 := rfl
  rw [high, unitsOf_succ, unitsOf_eq_mantissa, Nat.add_mul, Nat.mul_assoc]
  omega

/-- An interval begins halfway from the double before. -/
theorem Interval.low_of (present : 0 < number.magnitude) :
    (Interval.of number).low * 2 ^ (number.magnitude / exponentUnit - 1) =
      2 * (unitsOf (number.magnitude - 1) + unitsOf number.magnitude) := by
  have whole := unitsOf_eq_mantissa number
  have step := unitsOf_succ (number.magnitude - 1)
  rw [Nat.sub_add_cancel present] at step
  have positive : 0 < number.mantissaExponent.1 := by
    refine Nat.pos_of_ne_zero fun nothing => ?_
    rw [nothing, Nat.zero_mul] at whole
    exact absurd (unitsOf_strictMono present) (by omega)
  by_cases power : number.magnitude % exponentUnit = 0 ∧ exponentUnit < number.magnitude
  · have low : (Interval.of number).low = 4 * number.mantissaExponent.1 - 1 := by
      simp [Interval.of, power]
    have doubled : 2 ^ (number.magnitude / exponentUnit - 1) =
        2 * 2 ^ ((number.magnitude - 1) / exponentUnit - 1) := by
      rw [← Nat.pow_succ']
      congr 1
      unfold exponentUnit at power ⊢
      omega
    rw [low, Nat.sub_mul, Nat.mul_assoc, ← whole, doubled]
    omega
  · have low : (Interval.of number).low = 4 * number.mantissaExponent.1 - 2 := by
      simp only [Interval.of]
      rw [if_neg]
      simpa using power
    have same : (number.magnitude - 1) / exponentUnit - 1 = number.magnitude / exponentUnit - 1 := by
      unfold exponentUnit at power ⊢
      omega
    rw [low, Nat.sub_mul, Nat.mul_assoc, ← whole, ← same]
    omega

theorem Interval.closed_of (number : Binary64) :
    (Interval.of number).closed = (number.magnitude % 2 == 0) := by
  simp only [Interval.of, mantissaExponent]
  split
  · rename_i least
    congr 1
    unfold exponentUnit at *
    omega
  · congr 1
    unfold exponentUnit at *
    omega

/-- What lies in the interval of a double lies between the halfway points to its neighbours, and on one
only if the double is even. -/
theorem between_of_contains (present : 0 < number.magnitude)
    (inside : (Interval.of number).Contains value) :
    (2 * (unitsOf (number.magnitude - 1) + unitsOf number.magnitude) : Nat) ≤ value * 2 ^ 1076 ∧
      value * 2 ^ 1076 ≤ (2 * (unitsOf number.magnitude + unitsOf (number.magnitude + 1)) : Nat) ∧
      (number.magnitude % 2 = 1 →
        (2 * (unitsOf (number.magnitude - 1) + unitsOf number.magnitude) : Nat) < value * 2 ^ 1076 ∧
        value * 2 ^ 1076 < (2 * (unitsOf number.magnitude + unitsOf (number.magnitude + 1)) : Nat)) := by
  have scale : (0 : ℚ) < 2 ^ 1076 := by positivity
  rw [← Interval.low_of present, ← Interval.high_of, ← Interval.mark_of, ← Interval.mark_of,
    mul_le_mul_iff_of_pos_right scale, mul_le_mul_iff_of_pos_right scale,
    mul_lt_mul_iff_of_pos_right scale, mul_lt_mul_iff_of_pos_right scale]
  rw [Interval.Contains, Interval.closed_of] at inside
  split at inside
  · rename_i even
    refine ⟨inside.1, inside.2, fun odd => ?_⟩
    rw [odd] at even
    cases even
  · exact ⟨inside.1.le, inside.2.le, fun _ => inside⟩

/-- A number in the interval of a double is positive. -/
theorem pos_of_contains (present : 0 < number.magnitude) {value : ℚ}
    (inside : (Interval.of number).Contains value) : 0 < value := by
  have lower := (between_of_contains present inside).1
  have above : 0 < unitsOf number.magnitude :=
    (Nat.zero_le _).trans_lt (unitsOf_strictMono present)
  have positive : (0 : ℚ) < value * 2 ^ 1076 :=
    lt_of_lt_of_le (Nat.cast_pos.mpr (by omega)) lower
  exact pos_of_mul_pos_left positive (by positivity)

theorem not_lt_of_contains (present : 0 < number.magnitude)
    (inside : (Interval.of number).Contains value) (also : (Interval.of other).Contains value) :
    ¬ number.magnitude < other.magnitude := by
  intro less
  obtain ⟨-, upper, upper_lt⟩ := between_of_contains present inside
  obtain ⟨lower, -, lower_lt⟩ := between_of_contains (Nat.zero_lt_of_lt less) also
  have former : unitsOf number.magnitude ≤ unitsOf (other.magnitude - 1) :=
    unitsOf_strictMono.monotone (by omega)
  have latter : unitsOf (number.magnitude + 1) ≤ unitsOf other.magnitude :=
    unitsOf_strictMono.monotone less
  have meet := Nat.cast_le.mp (lower.trans upper)
  -- Only neighbours meet, and one of them is odd.
  have next : number.magnitude = other.magnitude - 1 := unitsOf_strictMono.injective (by omega)
  rcases Nat.mod_two_eq_zero_or_one number.magnitude with even | odd
  · have strict := Nat.cast_lt.mp ((lower_lt (by omega)).1.trans_le upper)
    omega
  · have strict := Nat.cast_lt.mp (lower.trans_lt (upper_lt odd).2)
    omega

/-- **A number lies in the intervals of no two doubles** but for the sign. -/
theorem magnitude_eq_of_contains (present : 0 < number.magnitude) (existing : 0 < other.magnitude)
    (inside : (Interval.of number).Contains value) (also : (Interval.of other).Contains value) :
    number.magnitude = other.magnitude :=
  Nat.le_antisymm (Nat.le_of_not_lt (not_lt_of_contains existing also inside))
    (Nat.le_of_not_lt (not_lt_of_contains present inside also))

theorem Interval.contains_of_lt {interval : Interval} (above : interval.mark interval.low < value)
    (below : value < interval.mark interval.high) : interval.Contains value := by
  unfold Contains
  split
  · exact ⟨above.le, below.le⟩
  · exact ⟨above, below⟩

theorem Interval.mark_mono (interval : Interval) {fewer more : Nat} (less : fewer ≤ more) :
    interval.mark fewer ≤ interval.mark more := by
  unfold mark
  gcongr

/-- A grid that is finer than half of the interval has a point in it, the one above the centre. -/
theorem Interval.holds_above (number : Binary64) {place : Int}
    (fine : (10 : ℚ) ^ place < 2 ^ ((Interval.of number).exponent + 1)) :
    (Interval.of number).holds place ((Interval.of number).numerator place (Interval.of number).centre /
      (Interval.of number).denominator place + 1) = true := by
  have low : (Interval.of number).low ≤ (Interval.of number).centre := by
    simp only [Interval.of]
    split <;> omega
  have high : (Interval.of number).high = (Interval.of number).centre + 2 := rfl
  generalize Interval.of number = interval at fine low high ⊢
  have positive : 0 < interval.denominator place :=
    Nat.mul_pos (Nat.two_pow_pos _) (Nat.pow_pos (by decide))
  have beyond := Nat.lt_mul_div_succ (interval.numerator place interval.centre) positive
  have until_centre := Nat.div_mul_le_self (interval.numerator place interval.centre)
    (interval.denominator place)
  generalize interval.numerator place interval.centre / interval.denominator place = below
    at beyond until_centre ⊢
  rw [Nat.mul_comm, ← Nat.not_le, le_numerator_iff, not_le] at beyond
  rw [le_numerator_iff] at until_centre
  refine holds_iff.mpr (contains_of_lt ((interval.mark_mono low).trans_lt beyond) ?_)
  calc ((below + 1 : Nat) : ℚ) * 10 ^ place = below * 10 ^ place + 10 ^ place := by push_cast; ring
    _ < interval.mark interval.centre + 2 ^ (interval.exponent + 1) :=
      add_lt_add_of_le_of_lt until_centre fine
    _ = interval.mark interval.high := by
      rw [high, mark, mark, zpow_add₀ two_ne_zero]
      push_cast
      ring

/-- **The shortest digits of a double lie in its interval.** -/
theorem contains_decimal (tie : Tie) (finite : number.magnitude < infinityMagnitude) :
    (Interval.of number).Contains (decimal tie number).value := by
  have exponent := Interval.exponent_of number
  have mantissa_lt : number.mantissaExponent.1 < 2 ^ 53 := by
    unfold mantissaExponent exponentUnit
    simp only
    split <;> omega
  have high_lt : (Interval.of number).high < 2 ^ 55 := by
    show 4 * number.mantissaExponent.1 + 2 < _
    omega
  have high_ne : (Interval.of number).high ≠ 0 := by
    show 4 * number.mantissaExponent.1 + 2 ≠ 0
    omega
  have digits := (Nat.log2_lt high_ne).mpr high_lt
  unfold infinityMagnitude at finite
  unfold exponentUnit at finite exponent
  -- The last grid that is looked at.
  refine Interval.holds_search (by decide : 19 < 20)
    (Interval.exists_onGrid? (Interval.holds_above number (ten_zpow_lt_two_zpow ?_ ?_ ?_)))
  · unfold Interval.topPlace
    omega
  · omega
  · omega

end Doubles

end Shortest

end Polystore
