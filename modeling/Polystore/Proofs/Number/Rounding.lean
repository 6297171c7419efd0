/-
**Doubles as numbers, and the double nearest to a whole number.**

* `order?_eq_compare_value`: the order of doubles is the order of the numbers that they are;
* `unitsOf_magnitudeOfNat`: a natural number becomes the pattern of `roundedNat`;
* `isNearest_rounded`: no double is nearer to a whole number than the rounded one, and of two that are
  equally near it is the one with the even significand;
* `rounded_mono`, `rounded_eq_self_iff`: rounding keeps the order of numbers and moves none that is a
  double already, so none up to `2 ^ 53`.
-/

import Mathlib.Algebra.Order.Ring.Int
import Mathlib.Data.Nat.Dist
import Polystore.Number.Binary64

namespace Polystore

/-! ### The nearest multiple -/

section Quotients

variable {denominator : Nat}

/-- Rounding takes one of the two neighbours of a quotient, by the remainder. -/
theorem roundHalfEven_cases (numerator denominator : Nat) :
    (roundHalfEven numerator denominator = numerator / denominator ∧
      2 * (numerator % denominator) ≤ denominator ∧
      (2 * (numerator % denominator) = denominator → numerator / denominator % 2 = 0)) ∨
    (roundHalfEven numerator denominator = numerator / denominator + 1 ∧
      denominator ≤ 2 * (numerator % denominator) ∧
      (2 * (numerator % denominator) = denominator → numerator / denominator % 2 = 1)) := by
  unfold roundHalfEven
  simp only
  split
  · exact .inr ⟨rfl, by omega, by omega⟩
  · exact .inl ⟨rfl, by omega, by omega⟩

/-- **Rounding takes the nearest multiple**, and of two that are equally near the even one. -/
theorem roundHalfEven_nearest (numerator : Nat) {other : Nat} (positive : 0 < denominator)
    (apart : other ≠ roundHalfEven numerator denominator) :
    Nat.dist numerator (roundHalfEven numerator denominator * denominator) <
        Nat.dist numerator (other * denominator) ∨
      Nat.dist numerator (roundHalfEven numerator denominator * denominator) =
          Nat.dist numerator (other * denominator) ∧
        roundHalfEven numerator denominator % 2 = 0 := by
  have parts : numerator / denominator * denominator + numerator % denominator = numerator :=
    Nat.div_add_mod' numerator denominator
  have least : numerator % denominator < denominator := Nat.mod_lt numerator positive
  -- The other multiple is one of the two neighbours, or a denominator or more beyond one of them.
  have below (less : other < numerator / denominator) :
      other * denominator + denominator ≤ numerator / denominator * denominator := by
    rw [← Nat.succ_mul]
    exact Nat.mul_le_mul_right denominator less
  have above (more : numerator / denominator + 1 < other) :
      (numerator / denominator + 1) * denominator + denominator ≤ other * denominator := by
    rw [← Nat.succ_mul]
    exact Nat.mul_le_mul_right denominator more
  have next : (numerator / denominator + 1) * denominator =
      numerator / denominator * denominator + denominator := Nat.succ_mul _ _
  have neighbours : other < numerator / denominator ∨ other = numerator / denominator ∨
      other = numerator / denominator + 1 ∨ numerator / denominator + 1 < other := by omega
  unfold Nat.dist
  rcases roundHalfEven_cases numerator denominator with ⟨taken, near, tie⟩ | ⟨taken, near, tie⟩ <;>
    rw [taken] at apart ⊢ <;> rcases neighbours with less | rfl | rfl | more
  · have far := below less
    omega
  · exact absurd rfl apart
  · omega
  · have far := above more
    omega
  · have far := below less
    omega
  · omega
  · exact absurd rfl apart
  · have far := above more
    omega

end Quotients

namespace Binary64

/-! ### The number that a double is -/

section Values

/-- The number that a double is, counted in the least positive double. An infinity counts as the power of
two that stands behind the greatest double. -/
def value (number : Binary64) : Int :=
  let size := number.mantissaExponent.1 * 2 ^ (number.mantissaExponent.2 + 1074).toNat
  if number.isNegative then -(size : Int) else size

/-- The number with the given bits beside the sign, counted in the least positive double. -/
def unitsOf (magnitude : Nat) : Nat :=
  if magnitude / exponentUnit = 0 then magnitude
  else (exponentUnit + magnitude % exponentUnit) * 2 ^ (magnitude / exponentUnit - 1)

/-- The number of a pattern in its parts: the field of the exponent, and the fraction below it. -/
theorem unitsOf_parts (field : Nat) {fraction : Nat} (short : fraction < exponentUnit) :
    unitsOf (field * exponentUnit + fraction) =
      if field = 0 then fraction else (exponentUnit + fraction) * 2 ^ (field - 1) := by
  have upper : (field * exponentUnit + fraction) / exponentUnit = field := by
    unfold exponentUnit at *
    omega
  have lower : (field * exponentUnit + fraction) % exponentUnit = fraction := by
    unfold exponentUnit at *
    omega
  rw [unitsOf, upper, lower]
  split
  · rename_i least
    rw [least, Nat.zero_mul, Nat.zero_add]
  · rfl

/-- The next pattern is a step of the last binary digit further. -/
theorem unitsOf_succ (magnitude : Nat) :
    unitsOf (magnitude + 1) = unitsOf magnitude + 2 ^ (magnitude / exponentUnit - 1) := by
  have short : magnitude % exponentUnit < exponentUnit := Nat.mod_lt _ (by decide)
  have parts := Nat.div_add_mod' magnitude exponentUnit
  generalize magnitude / exponentUnit = field, magnitude % exponentUnit = fraction at short parts
  rw [← parts, unitsOf_parts field short, Nat.add_assoc]
  by_cases carries : fraction + 1 = exponentUnit
  · -- The fraction is full: the exponent grows and the fraction starts again.
    have next : field * exponentUnit + (fraction + 1) = (field + 1) * exponentUnit + 0 := by
      rw [carries, Nat.succ_mul, Nat.add_zero]
    rw [next, unitsOf_parts (field + 1) (by decide), if_neg (Nat.succ_ne_zero field), Nat.add_zero,
      Nat.add_sub_cancel]
    split
    · rename_i least
      rw [least, Nat.pow_zero, Nat.mul_one, carries]
    · rename_i normal
      have doubled : 2 ^ field = 2 * 2 ^ (field - 1) := by
        rw [← Nat.pow_succ', Nat.succ_eq_add_one,
          Nat.sub_add_cancel (Nat.one_le_iff_ne_zero.mpr normal)]
      rw [doubled, ← Nat.succ_mul, ← Nat.mul_assoc]
      congr 1
      omega
  · rw [unitsOf_parts field (by omega : fraction + 1 < exponentUnit)]
    split
    · rename_i least
      rw [least]
      rfl
    · rw [← Nat.succ_mul]
      rfl

/-- The next pattern is the next greater number. -/
theorem unitsOf_lt_succ (magnitude : Nat) : unitsOf magnitude < unitsOf (magnitude + 1) := by
  rw [unitsOf_succ]
  exact Nat.lt_add_of_pos_right (Nat.two_pow_pos _)

theorem unitsOf_strictMono : StrictMono unitsOf := strictMono_nat_of_lt_succ unitsOf_lt_succ

/-- A function of natural numbers, mirrored at zero. -/
def mirrored (function : Nat → Nat) (number : Int) : Int :=
  if number < 0 then -(function number.natAbs : Int) else function number.natAbs

theorem mirrored_of_neg (function : Nat → Nat) {number : Int} (negative : number < 0) :
    mirrored function number = -(function number.natAbs : Int) := if_pos negative

theorem mirrored_of_not_neg (function : Nat → Nat) {number : Int} (positive : ¬ number < 0) :
    mirrored function number = function number.natAbs := if_neg positive

/-- Growing functions that begin at zero grow beyond it. -/
theorem mirrored_lt {function : Nat → Nat} (grows : StrictMono function) (zero : function 0 = 0)
    {left right : Int} (less : left < right) : mirrored function left < mirrored function right := by
  by_cases below : right < 0
  · have farther := grows (by omega : right.natAbs < left.natAbs)
    rw [mirrored_of_neg _ (by omega : left < 0), mirrored_of_neg _ below]
    omega
  · rw [mirrored_of_not_neg _ below]
    by_cases negative : left < 0
    · have positive := grows (by omega : 0 < left.natAbs)
      rw [mirrored_of_neg _ negative]
      omega
    · have farther := grows (by omega : left.natAbs < right.natAbs)
      rw [mirrored_of_not_neg _ negative]
      omega

theorem mirrored_natCast (function : Nat → Nat) (size : Nat) : mirrored function size = function size := by
  rw [mirrored_of_not_neg function (by omega), Int.natAbs_natCast]

theorem mirrored_neg {function : Nat → Nat} (zero : function 0 = 0) (size : Nat) :
    mirrored function (-(size : Int)) = -(function size : Int) := by
  by_cases nothing : size = 0
  · subst nothing
    rw [zero]
    exact (mirrored_natCast function 0).trans (congrArg _ zero)
  · rw [mirrored_of_neg function (by omega), Int.natAbs_neg, Int.natAbs_natCast]

/-- Mirroring goes through two functions of which the second keeps zero. -/
theorem mirrored_mirrored {first second : Nat → Nat} (zero : second 0 = 0) (number : Int) :
    mirrored second (mirrored first number) = mirrored (fun size => second (first size)) number := by
  by_cases negative : number < 0
  · rw [mirrored_of_neg _ negative, mirrored_of_neg _ negative, mirrored_neg zero]
  · rw [mirrored_of_not_neg _ negative, mirrored_of_not_neg _ negative, mirrored_natCast]

theorem unitsOf_magnitude (number : Binary64) :
    unitsOf number.magnitude =
      number.mantissaExponent.1 * 2 ^ (number.mantissaExponent.2 + 1074).toNat := by
  unfold unitsOf mantissaExponent
  simp only
  split
  · rename_i least
    have whole : number.magnitude % exponentUnit = number.magnitude := by
      unfold exponentUnit at *
      omega
    rw [whole]
    exact (Nat.mul_one _).symm
  · have exponent : ((number.magnitude / exponentUnit : Nat) - 1075 + 1074 : Int).toNat =
        number.magnitude / exponentUnit - 1 := by omega
    rw [exponent]

/-- The key of a double stands for the number that it is. -/
theorem value_eq_mirrored (number : Binary64) : number.value = mirrored unitsOf number.key := by
  unfold value key
  rw [← unitsOf_magnitude]
  cases number.isNegative with
  | false => exact (mirrored_natCast unitsOf number.magnitude).symm
  | true => exact (@mirrored_neg unitsOf rfl number.magnitude).symm

/-- A growing function keeps the order of two numbers. -/
theorem compare_of_growing {function : Int → Int}
    (grows : ∀ {left right : Int}, left < right → function left < function right) (left right : Int) :
    compare (function left) (function right) = compare left right := by
  rcases Int.lt_trichotomy left right with less | rfl | greater
  · rw [Int.compare_eq_lt.mpr less, Int.compare_eq_lt.mpr (grows less)]
  · rw [Int.compare_eq_eq.mpr rfl, Int.compare_eq_eq.mpr rfl]
  · rw [Int.compare_eq_gt.mpr greater, Int.compare_eq_gt.mpr (grows greater)]

/-- **The order of doubles is the order of the numbers that they are.** -/
theorem order?_eq_compare_value {left right : Binary64} (leftNumber : left.isNaN = false)
    (rightNumber : right.isNaN = false) : left.order? right = some (compare left.value right.value) := by
  rw [order?, leftNumber, rightNumber, Bool.or_self, if_neg Bool.false_ne_true, value_eq_mirrored,
    value_eq_mirrored, compare_of_growing (mirrored_lt unitsOf_strictMono rfl)]

end Values

/-! ### Rounding to a double -/

section Rounding

/-- The greatest magnitude up to which all whole numbers are doubles. -/
def exactLimit : Nat := 2 ^ 53

/-- The distance of the doubles next to a natural number. -/
def spacing (size : Nat) : Nat := 2 ^ (size.log2 - 52)

/-- A natural number rounded to the nearest double. -/
def roundedNat (size : Nat) : Nat := roundHalfEven size (spacing size) * spacing size

/-- **A whole number rounded to the nearest double**, of two that are equally near to the one with the
even significand. -/
def rounded (number : Int) : Int := mirrored roundedNat number

/-- Whether a whole number is a double: it has no more than 53 binary digits in front of its zeros. -/
def IsDouble (number : Int) : Prop :=
  ∃ significand exponent : Nat, significand < exactLimit ∧ number.natAbs = significand * 2 ^ exponent

/-- Whether a result is the double nearest to a number: every other one is farther, or equally far while
the significand of the result is even. -/
structure IsNearest (number result : Int) : Prop where
  isDouble : IsDouble result
  nearest : ∀ other, IsDouble other → other ≠ result →
    (number - result).natAbs < (number - other).natAbs ∨
      (number - result).natAbs = (number - other).natAbs ∧
        2 * spacing number.natAbs ∣ result.natAbs

theorem spacing_pos (size : Nat) : 0 < spacing size := Nat.two_pow_pos _

/-- A number has at most 53 binary digits in front of the spacing. -/
theorem lt_exactLimit_mul_spacing (size : Nat) : size < exactLimit * spacing size := by
  refine Nat.lt_of_lt_of_le (Nat.lt_log2_self (n := size)) ?_
  rw [exactLimit, spacing, ← Nat.pow_add]
  exact Nat.pow_le_pow_right (by decide) (by omega)

theorem roundHalfEven_spacing_le (size : Nat) : roundHalfEven size (spacing size) ≤ exactLimit := by
  have short : size / spacing size < exactLimit :=
    Nat.div_lt_of_lt_mul (by rw [Nat.mul_comm]; exact lt_exactLimit_mul_spacing size)
  rcases roundHalfEven_cases size (spacing size) with ⟨taken, -⟩ | ⟨taken, -⟩ <;> omega

/-- Every number is a multiple of one. -/
theorem roundHalfEven_one (size : Nat) : roundHalfEven size 1 = size := by
  rcases roundHalfEven_cases size 1 with ⟨taken, -⟩ | ⟨-, near, -⟩ <;> omega

theorem isDouble_roundedNat (size : Nat) : IsDouble (roundedNat size) := by
  rcases Nat.lt_or_eq_of_le (roundHalfEven_spacing_le size) with less | full
  · exact ⟨_, _, less, Int.natAbs_natCast _⟩
  · refine ⟨2 ^ 52, size.log2 - 52 + 1, by decide, ?_⟩
    rw [Int.natAbs_natCast, roundedNat, full, exactLimit, spacing, ← Nat.pow_add, ← Nat.pow_add,
      Nat.add_comm _ 1, ← Nat.add_assoc]

/-- A double that is no multiple of the spacing has fewer digits than the number. -/
theorem lt_of_not_dvd {size significand exponent : Nat} (short : significand < exactLimit)
    (uneven : ¬ spacing size ∣ significand * 2 ^ exponent) :
    52 < size.log2 ∧ significand * 2 ^ exponent < 2 ^ 52 * spacing size := by
  have finer : exponent < size.log2 - 52 := by
    by_contra coarser
    exact uneven (Dvd.dvd.mul_left (pow_dvd_pow 2 (not_lt.mp coarser)) significand)
  refine ⟨by omega, ?_⟩
  calc significand * 2 ^ exponent < exactLimit * 2 ^ exponent :=
        Nat.mul_lt_mul_of_pos_right short (Nat.two_pow_pos exponent)
    _ = 2 ^ (53 + exponent) := (Nat.pow_add 2 53 exponent).symm
    _ ≤ 2 ^ (52 + (size.log2 - 52)) := Nat.pow_le_pow_right (by decide) (by omega)
    _ = 2 ^ 52 * spacing size := Nat.pow_add 2 52 _

/-- The nearest double among natural numbers. -/
theorem roundedNat_nearest (size : Nat) {other : Nat} (double : IsDouble other)
    (apart : other ≠ roundedNat size) :
    Nat.dist size (roundedNat size) < Nat.dist size other ∨
      Nat.dist size (roundedNat size) = Nat.dist size other ∧ 2 * spacing size ∣ roundedNat size := by
  obtain ⟨significand, exponent, short, whole⟩ := double
  rw [Int.natAbs_natCast] at whole
  by_cases even : spacing size ∣ other
  · obtain ⟨multiple, rfl⟩ := even
    rw [Nat.mul_comm] at apart ⊢
    have different : multiple ≠ roundHalfEven size (spacing size) := by
      rintro rfl
      exact apart rfl
    refine (roundHalfEven_nearest size (spacing_pos size) different).imp_right fun tie => ?_
    exact ⟨tie.1, Nat.mul_dvd_mul_right (Nat.dvd_of_mod_eq_zero tie.2) (spacing size)⟩
  · -- Such a double lies below the power of two that begins the digits of the number.
    rw [whole] at even
    obtain ⟨long, below⟩ := lt_of_not_dvd short even
    left
    have power : 2 ^ 52 * spacing size ≤ size := by
      rw [spacing, ← Nat.pow_add, Nat.add_sub_cancel' (Nat.le_of_lt long)]
      refine Nat.log2_self_le ?_
      rintro rfl
      exact absurd long (by decide)
    have nearer : Nat.dist size (roundedNat size) ≤ Nat.dist size (2 ^ 52 * spacing size) := by
      by_cases same : 2 ^ 52 = roundHalfEven size (spacing size)
      · rw [roundedNat, ← same]
      · rcases roundHalfEven_nearest size (spacing_pos size) same with less | tie
        · exact Nat.le_of_lt less
        · exact Nat.le_of_eq tie.1
    refine Nat.lt_of_le_of_lt nearer ?_
    unfold Nat.dist
    omega

variable {number result : Int}

theorem isDouble_neg (double : IsDouble number) : IsDouble (-number) := by
  unfold IsDouble at *
  rwa [Int.natAbs_neg]

/-- What is nearest to a number is on the other side of zero nearest to its opposite. -/
theorem IsNearest.neg (nearest : IsNearest number result) : IsNearest (-number) (-result) := by
  refine ⟨isDouble_neg nearest.isDouble, fun other double apart => ?_⟩
  have mirror := nearest.nearest (-other) (isDouble_neg double) (by omega)
  rw [Int.natAbs_neg, Int.natAbs_neg]
  refine mirror.imp (by omega) (And.imp_left (by omega))

/-- No natural number is rounded farther than to zero. -/
theorem dist_roundedNat_le (size : Nat) : Nat.dist size (roundedNat size) ≤ size := by
  have origin : Nat.dist size 0 = size := Nat.dist_zero_right size
  by_cases zero : 0 = roundedNat size
  · rw [← zero, origin]
  · have double : IsDouble (0 : Nat) := ⟨0, 0, by decide, rfl⟩
    have nearest := roundedNat_nearest size double zero
    omega

theorem isNearest_roundedNat (size : Nat) : IsNearest size (roundedNat size) := by
  have distance (other : Nat) : ((size : Int) - other).natAbs = Nat.dist size other := by
    unfold Nat.dist
    omega
  refine ⟨isDouble_roundedNat size, fun other double apart => ?_⟩
  rw [distance, Int.natAbs_natCast, Int.natAbs_natCast]
  by_cases negative : other < 0
  · -- Zero lies between the number and what stands on its other side.
    have nearer := dist_roundedNat_le size
    omega
  · obtain ⟨other, rfl⟩ := Int.eq_ofNat_of_zero_le (not_lt.mp negative)
    rw [distance]
    exact roundedNat_nearest size double fun same => apart (congrArg _ same)

/-- **Rounding takes the nearest double.** -/
theorem isNearest_rounded (number : Int) : IsNearest number (rounded number) := by
  obtain ⟨size, rfl | rfl⟩ := Int.eq_nat_or_neg number
  · rw [rounded, mirrored_natCast]
    exact isNearest_roundedNat size
  · rw [rounded, @mirrored_neg roundedNat rfl]
    exact (isNearest_roundedNat size).neg

/-- **Rounding keeps the order of numbers**, up to numbers that become the same. -/
theorem rounded_mono {left right : Int} (less : left ≤ right) : rounded left ≤ rounded right := by
  by_contra inverted
  have different : left ≠ right := by
    rintro rfl
    exact inverted (Int.le_refl _)
  -- Each of the two results would be the nearer one to the number that the other is made of.
  have first := (isNearest_rounded left).nearest _ (isNearest_rounded right).isDouble (by omega)
  have second := (isNearest_rounded right).nearest _ (isNearest_rounded left).isDouble (by omega)
  omega

/-- **Rounding moves no number that is a double.** -/
theorem rounded_eq_self_iff : rounded number = number ↔ IsDouble number := by
  refine ⟨fun same => same ▸ (isNearest_rounded number).isDouble, fun double => ?_⟩
  by_contra moved
  have nearer := (isNearest_rounded number).nearest number double (Ne.symm moved)
  omega

/-- Up to the limit every whole number is a double. -/
theorem isDouble_of_le (small : number.natAbs ≤ exactLimit) : IsDouble number := by
  rcases Nat.lt_or_eq_of_le small with less | last
  · exact ⟨_, 0, less, (Nat.mul_one _).symm⟩
  · exact ⟨1, 53, by decide, last⟩

/-- **Numbers stand in their order after rounding** unless they become one. -/
theorem compare_rounded_eq_iff {left right : Int} :
    compare (rounded left) (rounded right) = compare left right ↔
      (rounded left = rounded right → left = right) := by
  have grows {first second : Int} (less : first < second) : rounded first ≤ rounded second :=
    rounded_mono (Int.le_of_lt less)
  rcases Int.lt_trichotomy left right with less | rfl | greater
  · have kept := grows less
    rw [Int.compare_eq_lt.mpr less, Int.compare_eq_lt]
    omega
  · exact iff_of_true ((Int.compare_eq_eq.mpr rfl).trans (Int.compare_eq_eq.mpr rfl).symm) fun _ => rfl
  · have kept := grows greater
    rw [Int.compare_eq_gt.mpr greater, Int.compare_eq_gt]
    omega

end Rounding

end Binary64

end Polystore
