/-
**The calendar by which instants are written.**

`followingDate` is the rule of the proleptic Gregorian calendar: which date comes after which. Dates are
computed from the number of a day in one step, by years that begin in March. A day is a `Dated` one of
such a year, and its year is found by cycles of four centuries (`Falls`).

* `dateOfDay_succ`: the day after a day has the following date;
* `compare_dateOfDay`: dates are before and after each other as their days are;
* `compare_ofMillis`: so are instants, by their dates and their times of day.
-/

import Mathlib.Order.Compare
import Mathlib.Order.Monotone.Basic
import Mathlib.Order.SuccPred.LinearLocallyFinite
import Mathlib.Tactic.IntervalCases
import Polystore.Calendar

namespace Polystore.Calendar

/-- Every fourth year is a leap year, but of the full centuries only every fourth one. -/
def isLeapYear (year : Int) : Bool := year % 4 == 0 && (year % 100 != 0 || year % 400 == 0)

/-- How many days a month has. -/
def monthLength (year : Int) : Nat → Nat
  | 2 => if isLeapYear year then 29 else 28
  | 4 | 6 | 9 | 11 => 30
  | _ => 31

/-- **The rule of the Gregorian calendar**: the date after a date. -/
def followingDate : Int × Nat × Nat → Int × Nat × Nat
  | (year, month, day) =>
    if day < monthLength year month then (year, month, day + 1)
    else if month < 12 then (year, month + 1, 1)
    else (year + 1, 1, 1)

/-- The first of March of a year, counted in days from that of the year 0. -/
def yearStart (year : Int) : Int := 365 * year + year / 4 - year / 100 + year / 400

/-- The date of a day of a year that begins in March. -/
def marchDate (year : Int) (dayOfYear : Nat) : Int × Nat × Nat :=
  let month := (5 * dayOfYear + 2) / 153
  (if month < 10 then year else year + 1, if month < 10 then month + 3 else month - 9,
    dayOfYear - (153 * month + 2) / 5 + 1)

theorem isLeapYear_iff {year : Int} :
    isLeapYear year = true ↔ year % 4 = 0 ∧ (year % 100 ≠ 0 ∨ year % 400 = 0) := by
  simp [isLeapYear]

/-! ### Years that begin in March -/

section Years

/-- A year that begins in March ends with the February of the next one. -/
theorem yearStart_succ (year : Int) :
    yearStart (year + 1) = yearStart year + 365 + if isLeapYear (year + 1) then 1 else 0 := by
  unfold yearStart
  split <;> rename_i leap <;> rw [isLeapYear_iff] at leap <;> omega

theorem yearStart_succ_le {first second : Int} (before : first < second) :
    yearStart (first + 1) ≤ yearStart second := by
  unfold yearStart
  omega

/-- Only one year has a day. -/
theorem eq_of_within {first second day : Int} (first_le : yearStart first ≤ day)
    (lt_first : day < yearStart (first + 1)) (second_le : yearStart second ≤ day)
    (lt_second : day < yearStart (second + 1)) : first = second := by
  rcases lt_trichotomy first second with before | same | after
  · have := yearStart_succ_le before
    omega
  · exact same
  · have := yearStart_succ_le after
    omega

theorem yearStart_cycle (cycles year : Int) :
    yearStart (400 * cycles + year) = 146097 * cycles + yearStart year := by
  unfold yearStart
  omega

theorem isLeapYear_cycle (cycles year : Int) : isLeapYear (400 * cycles + year) = isLeapYear year := by
  rw [Bool.eq_iff_iff, isLeapYear_iff, isLeapYear_iff]
  omega

end Years

/-! ### The year of a day -/

/-- Of parts of one size, the last one may have one more. -/
theorem exists_part (last : Nat) {size number : Nat} (present : 0 < size)
    (bounded : number ≤ size * (last + 1)) :
    ∃ part rest, part ≤ last ∧ rest ≤ size ∧ (rest = size → part = last) ∧
      number = size * part + rest := by
  by_cases inside : number / size ≤ last
  · refine ⟨number / size, number % size, inside, (Nat.mod_lt number present).le, ?_,
      (Nat.div_add_mod number size).symm⟩
    exact fun whole => absurd whole (Nat.mod_lt number present).ne
  · have reached : size * (last + 1) ≤ number := by
      rw [Nat.mul_comm]
      exact (Nat.le_div_iff_mul_le present).mp (Nat.lt_of_not_le inside)
    exact ⟨last, size, le_rfl, le_rfl, fun _ => rfl,
      (bounded.antisymm reached).trans (Nat.mul_succ size last)⟩

/-- Where a day of four centuries falls: in which century, behind how many leap years of it, in which of
the years up to the next one, and on which day. Only a year with a leap day has a day 365. -/
structure Falls (dayOfCycle century leaps year day : Nat) : Prop where
  century_le : century ≤ 3
  leaps_le : leaps ≤ 24
  year_le : year ≤ 3
  day_le : day ≤ 365
  last : day = 365 → year = 3
  whole : day = 365 → leaps = 24 → century = 3
  eq : dayOfCycle = 36524 * century + 1461 * leaps + 365 * year + day

theorem exists_falls {dayOfCycle : Nat} (inside : dayOfCycle < 146097) :
    ∃ century leaps year day, Falls dayOfCycle century leaps year day := by
  obtain ⟨century, rest, century_le, rest_le, whole, rfl⟩ :=
    exists_part 3 (show 0 < 36524 by decide) (show dayOfCycle ≤ 36524 * 4 by omega)
  obtain ⟨year, day, year_le, day_le, last, split⟩ :=
    exists_part 3 (show 0 < 365 by decide) (show rest % 1461 ≤ 365 * 4 by omega)
  refine ⟨century, rest / 1461, year, day, century_le, ?_, year_le, day_le, last, ?_, ?_⟩
  · omega
  · intro long full
    have := last long
    omega
  · omega

namespace Falls

variable {dayOfCycle century leaps year day : Nat}

/-- Dividing by the days of a century gives the century, and one more on the last day of all. -/
theorem centuries (falls : Falls dayOfCycle century leaps year day) :
    dayOfCycle / 36524 = century + dayOfCycle / 146096 := by
  obtain ⟨century_le, leaps_le, year_le, day_le, last, whole, eq⟩ := falls
  by_cases final : dayOfCycle = 146096
  · have : century = 3 := by omega
    rw [final, this]
  · have early : dayOfCycle / 146096 = 0 := Nat.div_eq_of_lt (by omega)
    have within : 1461 * leaps + 365 * year + day < 36524 := by omega
    rw [early, Nat.add_zero]
    exact Nat.div_eq_of_lt_le (by omega) (by omega)

/-- Dividing by 1460 counts the leap days before a day, and near the end of a year possibly one more. -/
theorem leapDays (falls : Falls dayOfCycle century leaps year day) :
    dayOfCycle / 1460 =
      25 * century + leaps + (24 * century + leaps + 365 * year + day) / 1460 := by
  have eq := falls.eq
  clear falls
  have split : dayOfCycle =
      24 * century + leaps + 365 * year + day + 1460 * (25 * century + leaps) := by omega
  rw [split, Nat.add_mul_div_left _ _ (by decide), Nat.add_comm]

/-- The one more is never so much that the day would fall into another year. -/
theorem taken_le (falls : Falls dayOfCycle century leaps year day) :
    (24 * century + leaps + 365 * year + day) / 1460 ≤ day ∧
      day < 365 + (24 * century + leaps + 365 * year + day) / 1460 := by
  obtain ⟨century_le, leaps_le, year_le, day_le, last, -, -⟩ := falls
  refine ⟨?_, ?_⟩
  · clear last
    omega
  · omega

/-- The year of a day within the cycle. -/
theorem yearOfCycle (falls : Falls dayOfCycle century leaps year day) :
    (dayOfCycle - dayOfCycle / 1460 + dayOfCycle / 36524 - dayOfCycle / 146096) / 365 =
      100 * century + 4 * leaps + year := by
  obtain ⟨skipped, kept⟩ := falls.taken_le
  have eq := falls.eq
  rw [falls.leapDays, falls.centuries]
  clear falls
  generalize (24 * century + leaps + 365 * year + day) / 1460 = taken at skipped kept
  have counted : dayOfCycle - (25 * century + leaps + taken) + (century + dayOfCycle / 146096) -
      dayOfCycle / 146096 = 365 * (100 * century + 4 * leaps + year) + (day - taken) := by
    rw [← Nat.add_assoc, Nat.add_sub_cancel, eq]
    omega
  rw [counted, Nat.mul_add_div (by decide), Nat.div_eq_of_lt (by omega), Nat.add_zero]

/-- The day of this year. -/
theorem dayOfYear (falls : Falls dayOfCycle century leaps year day) :
    dayOfCycle - (365 * (100 * century + 4 * leaps + year) + (100 * century + 4 * leaps + year) / 4 -
      (100 * century + 4 * leaps + year) / 100) = day := by
  obtain ⟨century_le, leaps_le, year_le, -, -, -, rfl⟩ := falls
  have begins : 365 * (100 * century + 4 * leaps + year) + (100 * century + 4 * leaps + year) / 4 -
      (100 * century + 4 * leaps + year) / 100 = 36524 * century + 1461 * leaps + 365 * year := by
    omega
  rw [begins, Nat.add_sub_cancel_left]

theorem yearStart_eq (falls : Falls dayOfCycle century leaps year day) :
    yearStart (100 * century + 4 * leaps + year) = 36524 * century + 1461 * leaps + 365 * year := by
  obtain ⟨century_le, leaps_le, year_le, -, -, -, -⟩ := falls
  unfold yearStart
  omega

/-- The day 365 is the leap day of the next year. -/
theorem isLeapYear_of_long (falls : Falls dayOfCycle century leaps year day) (long : day = 365) :
    isLeapYear (100 * century + 4 * leaps + year + 1) = true := by
  have whole := falls.whole long
  have last := falls.last long
  rw [isLeapYear_iff]
  refine ⟨by omega, ?_⟩
  by_cases full : leaps = 24
  · rw [last, full, whole full]
    exact .inr (by decide)
  · have := falls.leaps_le
    exact .inl (by omega)

end Falls

/-! ### Days and their dates -/

/-- **A day of a year that begins in March.** -/
structure Dated (day year : Int) (dayOfYear : Nat) : Prop where
  counted : day + 719468 = yearStart year + dayOfYear
  le : dayOfYear ≤ 365
  leap : dayOfYear = 365 → isLeapYear (year + 1) = true
  date : dateOfDay day = marchDate year dayOfYear

theorem exists_dated (day : Int) : ∃ year dayOfYear, Dated day year dayOfYear := by
  obtain ⟨century, leaps, year, dayOfYear, falls⟩ :=
    exists_falls (show ((day + 719468) % 146097).toNat < 146097 by omega)
  refine ⟨400 * ((day + 719468) / 146097) + (100 * century + 4 * leaps + year : Nat), dayOfYear,
    ?_, falls.day_le, ?_, ?_⟩
  · have start := falls.yearStart_eq
    have split := falls.eq
    rw [yearStart_cycle]
    push_cast
    rw [start]
    clear falls start
    omega
  · intro long
    rw [Int.add_assoc, isLeapYear_cycle]
    push_cast
    exact falls.isLeapYear_of_long long
  · have late : (5 * dayOfYear + 2) / 153 ≤ 11 := by
      have := falls.day_le
      clear falls
      omega
    unfold dateOfDay marchDate
    simp only [falls.yearOfCycle, falls.dayOfYear]
    by_cases early : (5 * dayOfYear + 2) / 153 < 10
    · have spring : ¬ (5 * dayOfYear + 2) / 153 + 3 ≤ 2 := by omega
      rw [if_pos early, if_pos early, if_neg spring, Int.add_zero, Int.add_comm, Int.mul_comm]
    · have winter : (5 * dayOfYear + 2) / 153 - 9 ≤ 2 := by omega
      rw [if_neg early, if_neg early, if_pos winter, Int.add_comm (Nat.cast _), Int.mul_comm]

namespace Dated

variable {day year : Int} {dayOfYear : Nat}

theorem lt_yearStart (dated : Dated day year dayOfYear) : day + 719468 < yearStart (year + 1) := by
  have counted := dated.counted
  have bounded := dated.le
  rw [yearStart_succ]
  split
  · omega
  · rename_i common
    have : dayOfYear ≠ 365 := fun long => common (dated.leap long)
    omega

/-- A day that is counted within a year has its date there. -/
theorem date_eq (dated : Dated day year dayOfYear) {other : Int} {otherDay : Nat}
    (counted : day + 719468 = yearStart other + otherDay)
    (inside : day + 719468 < yearStart (other + 1)) : dateOfDay day = marchDate other otherDay := by
  have own := dated.counted
  have begun : yearStart other ≤ day + 719468 := by omega
  obtain rfl := eq_of_within (by omega) dated.lt_yearStart begun inside
  obtain rfl : dayOfYear = otherDay := by omega
  exact dated.date

/-- The months are counted from 1 to 12, and their days from 1 to 31. -/
theorem bounds (dated : Dated day year dayOfYear) :
    ((dateOfDay day).2.1 - 1 < 12 ∧ 1 ≤ (dateOfDay day).2.1) ∧
      (dateOfDay day).2.2 - 1 < 31 ∧ 1 ≤ (dateOfDay day).2.2 := by
  have bounded := dated.le
  rw [dated.date]
  unfold marchDate
  simp only
  clear dated
  refine ⟨?_, by omega, by omega⟩
  split <;> omega

end Dated

/-! ### The date of the next day -/

/-- The months from March to January have the same days in every year. -/
theorem monthLength_march (year : Int) {month : Nat} (early : month < 11) :
    (153 * month + 2) / 5 + monthLength year (if month < 10 then month + 3 else month - 9) =
      (153 * (month + 1) + 2) / 5 := by
  interval_cases month <;> rfl

theorem le_monthLength_two (year : Int) : 28 ≤ monthLength year 2 := by
  show 28 ≤ if isLeapYear year then 29 else 28
  split <;> omega

theorem followingDate_within (year : Int) {dayOfYear : Nat} (inside : dayOfYear < 364) :
    followingDate (marchDate year dayOfYear) = marchDate year (dayOfYear + 1) := by
  unfold marchDate followingDate
  simp only
  generalize named : (5 * dayOfYear + 2) / 153 = month
  by_cases goesOn : (5 * (dayOfYear + 1) + 2) / 153 = month
  · rw [goesOn, if_pos]
    · congr 2
      omega
    · rcases Nat.lt_or_ge month 11 with early | late
      · have := monthLength_march (if month < 10 then year else year + 1) early
        omega
      · obtain rfl : month = 11 := by omega
        have := le_monthLength_two (year + 1)
        simp
        omega
  · have next : (5 * (dayOfYear + 1) + 2) / 153 = month + 1 := by omega
    have early : month < 11 := by omega
    have long := monthLength_march (if month < 10 then year else year + 1) early
    rw [next, if_neg (by omega)]
    interval_cases month <;> simp <;> omega

theorem followingDate_leap {year : Int} (leap : isLeapYear (year + 1) = true) :
    followingDate (marchDate year 364) = marchDate year 365 := by
  simp [marchDate, followingDate, monthLength, leap]

theorem followingDate_common {year : Int} (common : isLeapYear (year + 1) = false) :
    followingDate (marchDate year 364) = marchDate (year + 1) 0 := by
  simp [marchDate, followingDate, monthLength, common]

theorem followingDate_leapDay {year : Int} (leap : isLeapYear (year + 1) = true) :
    followingDate (marchDate year 365) = marchDate (year + 1) 0 := by
  simp [marchDate, followingDate, monthLength, leap]

/-- **The calendar is the Gregorian one**: the day after a day has the following date. -/
theorem dateOfDay_succ (day : Int) : dateOfDay (day + 1) = followingDate (dateOfDay day) := by
  obtain ⟨year, dayOfYear, dated⟩ := exists_dated day
  obtain ⟨_, _, next⟩ := exists_dated (day + 1)
  have counted := dated.counted
  have bounded := dated.le
  have long := yearStart_succ year
  have after := yearStart_succ (year + 1)
  rw [dated.date]
  rcases Nat.lt_trichotomy dayOfYear 364 with early | rfl | late
  · rw [followingDate_within year early]
    refine next.date_eq (by push_cast; omega) ?_
    rw [long]
    split <;> omega
  · cases leap : isLeapYear (year + 1) with
    | true =>
      rw [leap, if_pos rfl] at long
      rw [followingDate_leap leap]
      exact next.date_eq (by push_cast; omega) (by omega)
    | false =>
      rw [leap, if_neg Bool.false_ne_true] at long
      rw [followingDate_common leap]
      refine next.date_eq (by push_cast; omega) ?_
      rw [after]
      split <;> omega
  · obtain rfl : dayOfYear = 365 := by omega
    have leap := dated.leap rfl
    rw [leap, if_pos rfl] at long
    rw [followingDate_leapDay leap]
    refine next.date_eq (by push_cast; omega) ?_
    rw [after]
    split <;> omega

example : dateOfDay 0 = (1970, 1, 1) := by decide

/-! ### The order of dates -/

section Comparisons

variable {size first second : Int}

/-- Numbers are compared by how often they hold a size, and then by what is left. -/
theorem compare_mul_add {left right : Int} (left_nonneg : 0 ≤ left) (left_lt : left < size)
    (right_nonneg : 0 ≤ right) (right_lt : right < size) :
    compare (size * first + left) (size * second + right) =
      (compare first second).then (compare left right) := by
  rcases lt_trichotomy first second with before | rfl | after
  · have apart : size * (first + 1) ≤ size * second :=
      Int.mul_le_mul_of_nonneg_left before (by omega)
    rw [Int.mul_add] at apart
    rw [compare_lt_iff_lt.mpr before]
    exact compare_lt_iff_lt.mpr (by omega)
  · have shifted : StrictMono fun number : Int => size * first + number := fun _ _ less => by
      show _ + _ < _ + _
      omega
    rw [compare_eq_iff_eq.mpr rfl, ← cmp_eq_compare, ← cmp_eq_compare]
    exact shifted.cmp_map_eq left right
  · have apart : size * (second + 1) ≤ size * first :=
      Int.mul_le_mul_of_nonneg_left after (by omega)
    rw [Int.mul_add] at apart
    rw [compare_gt_iff_gt.mpr after]
    exact compare_gt_iff_gt.mpr (show _ < _ by omega)

theorem compare_ediv_emod (present : 0 < size) (first second : Int) :
    compare first second =
      (compare (first / size) (second / size)).then (compare (first % size) (second % size)) := by
  rw [← compare_mul_add (Int.emod_nonneg _ present.ne') (Int.emod_lt_of_pos _ present)
    (Int.emod_nonneg _ present.ne') (Int.emod_lt_of_pos _ present), Int.mul_ediv_add_emod,
    Int.mul_ediv_add_emod]

/-- The first number of a count does not matter. -/
theorem compare_sub_natCast (start : Int) (first second : Nat) :
    compare (first - start) (second - start) = compare first second := by
  have counted : StrictMono fun number : Nat => (number : Int) - start := fun _ _ less => by
    show _ - _ < _ - _
    omega
  rw [← cmp_eq_compare, ← cmp_eq_compare]
  exact counted.cmp_map_eq first second

theorem compare_natCast (first second : Nat) : compare (first : Int) second = compare first second := by
  have unshifted := compare_sub_natCast 0 first second
  rwa [Int.sub_zero, Int.sub_zero] at unshifted

theorem compare_div_mod {size : Nat} (present : 0 < size) (first second : Nat) :
    compare first second =
      (compare (first / size) (second / size)).then (compare (first % size) (second % size)) := by
  have whole := compare_ediv_emod (Int.natCast_pos.mpr present) first second
  rwa [← Int.natCast_ediv, ← Int.natCast_ediv, ← Int.natCast_emod, ← Int.natCast_emod, compare_natCast,
    compare_natCast, compare_natCast] at whole

end Comparisons

/-- The place of a date if every month had 31 days. -/
def datePlace (date : Int × Nat × Nat) : Int :=
  31 * (12 * date.1 + (date.2.1 - 1)) + (date.2.2 - 1)

theorem datePlace_lt_followingDate (date : Int × Nat × Nat) (month_le : date.2.1 ≤ 12)
    (day_le : date.2.2 ≤ 31) : datePlace date < datePlace (followingDate date) := by
  obtain ⟨year, month, day⟩ := date
  unfold followingDate datePlace
  simp only at month_le day_le ⊢
  split
  · push_cast
    omega
  · split <;> push_cast <;> omega

theorem datePlace_lt {first second : Int} (before : first < second) :
    datePlace (dateOfDay first) < datePlace (dateOfDay second) := by
  suffices growing : StrictMono fun day => datePlace (dateOfDay day) from growing before
  refine strictMono_int_of_lt_succ fun day => ?_
  obtain ⟨year, dayOfYear, dated⟩ := exists_dated day
  obtain ⟨⟨month_lt, _⟩, day_lt, _⟩ := dated.bounds
  rw [dateOfDay_succ]
  exact datePlace_lt_followingDate _ (by omega) (by omega)

/-- **Dates come in the order of their days.** -/
theorem compare_dateOfDay (first second : Int) :
    compare first second =
      (compare (dateOfDay first).1 (dateOfDay second).1).then
        ((compare (dateOfDay first).2.1 (dateOfDay second).2.1).then
          (compare (dateOfDay first).2.2 (dateOfDay second).2.2)) := by
  obtain ⟨_, _, one⟩ := exists_dated first
  obtain ⟨_, _, other⟩ := exists_dated second
  obtain ⟨⟨month_lt, month_pos⟩, day_lt, day_pos⟩ := one.bounds
  obtain ⟨⟨otherMonth_lt, otherMonth_pos⟩, otherDay_lt, otherDay_pos⟩ := other.bounds
  have growing : StrictMono fun day => datePlace (dateOfDay day) := fun _ _ => datePlace_lt
  have placed := growing.cmp_map_eq first second
  rw [cmp_eq_compare, cmp_eq_compare, datePlace, datePlace,
    compare_mul_add (by omega) (by omega) (by omega) (by omega),
    compare_mul_add (by omega) (by omega) (by omega) (by omega), compare_sub_natCast,
    compare_sub_natCast, Ordering.then_assoc] at placed
  exact placed.symm

/-- Moments by their parts, the greatest ones first. -/
def Moment.order (first second : Moment) : Ordering :=
  (compare first.year second.year).then <| (compare first.month second.month).then <|
    (compare first.day second.day).then <| (compare first.hour second.hour).then <|
    (compare first.minute second.minute).then <| (compare first.second second.second).then <|
    compare first.millisecond second.millisecond

/-- The time of day, by hours, minutes, seconds and milliseconds. -/
theorem compare_timeOfDay (first second : Nat) :
    compare first second =
      ((compare (first / 3600000) (second / 3600000)).then <|
        (compare (first / 60000 % 60) (second / 60000 % 60)).then <|
        (compare (first / 1000 % 60) (second / 1000 % 60)).then <|
        compare (first % 1000) (second % 1000)) := by
  rw [compare_div_mod (show 0 < 1000 by decide) first second,
    compare_div_mod (show 0 < 60 by decide) (first / 1000) (second / 1000),
    compare_div_mod (show 0 < 60 by decide) (first / 1000 / 60) (second / 1000 / 60)]
  simp only [Nat.div_div_eq_div_mul, Ordering.then_assoc]

/-- **Moments come in the order of their instants.** -/
theorem compare_ofMillis (first second : Int) :
    compare first second = (ofMillis first).order (ofMillis second) := by
  have nonneg (millis : Int) : ((millis % millisPerDay).toNat : Int) = millis % millisPerDay :=
    Int.toNat_of_nonneg (Int.emod_nonneg _ (by decide))
  rw [compare_ediv_emod (show 0 < millisPerDay by decide) first second, ← nonneg first, ← nonneg second,
    compare_natCast, compare_timeOfDay, compare_dateOfDay, Ordering.then_assoc, Ordering.then_assoc]
  rfl

end Polystore.Calendar
