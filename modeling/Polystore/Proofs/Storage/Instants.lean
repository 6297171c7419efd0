/-
**Instants that are stored as texts.**

A text is compared byte by byte. The text of an instant has its parts in the order of their weight, the
year first, and each part filled up to a fixed count of digits, as long as the year has four of them.

* `bytes_padded`, `compare_decimalBytes`: numbers filled up with zeros are compared as numbers;
* `bytes_stored`: the bytes of a stored instant, part by part;
* `compare_stored`: stored instants from the years 0 to 9999 are compared as instants.
-/

import Polystore.Proofs.Calendar.Gregorian
import Polystore.Proofs.Storage.Columns

namespace Polystore

/-! ### Bytes of texts -/

theorem Text.bytes_eq_flatMap (text : String) :
    bytes text = text.toList.flatMap String.utf8EncodeChar := by
  rw [bytes, String.toUTF8_eq_toByteArray, ← String.utf8Encode_toList, List.utf8Encode,
    List.toList_data_toByteArray]

theorem Text.bytes_append (first second : String) :
    bytes (first ++ second) = bytes first ++ bytes second := by
  rw [bytes_eq_flatMap, bytes_eq_flatMap, bytes_eq_flatMap, String.toList_append, List.flatMap_append]

/-- Lists with beginnings of one length are compared by these first. -/
theorem compare_append_append {first second : List UInt8} (same : first.length = second.length)
    (firstRest secondRest : List UInt8) :
    compare (first ++ firstRest) (second ++ secondRest) =
      (compare first second).then (compare firstRest secondRest) := by
  rw [List.compare_eq_compareLex]
  induction first generalizing second with
  | nil =>
    obtain rfl := List.length_eq_zero_iff.mp same.symm
    rfl
  | cons head others hypothesis =>
    cases second with
    | nil => cases same
    | cons byte bytes =>
      rw [List.cons_append, List.cons_append, List.compareLex_cons_cons, List.compareLex_cons_cons,
        hypothesis (Nat.succ.inj same), Ordering.then_assoc]

/-! ### Numbers filled up with zeros -/

/-- The last decimal digits of a number. -/
def decimalDigits : Nat → Nat → List Char
  | 0, _ => []
  | count + 1, number => decimalDigits count (number / 10) ++ [Nat.digitChar (number % 10)]

/-- The bytes of the last decimal digits of a number. -/
def decimalBytes (count number : Nat) : List UInt8 :=
  (decimalDigits count number).flatMap String.utf8EncodeChar

theorem decimalDigits_zero (count : Nat) : decimalDigits count 0 = List.replicate count '0' := by
  induction count with
  | zero => rfl
  | succ count hypothesis =>
    rw [decimalDigits, Nat.zero_div, hypothesis, List.replicate_succ']
    rfl

theorem toList_padded_eq (width number : Nat) : (Calendar.padded width number).toList =
    List.replicate (width - (Nat.toDigits 10 number).length) '0' ++ Nat.toDigits 10 number := by
  rw [Calendar.padded, Nat.toString_eq_ofList_toDigits]
  simp only [String.toList_append, String.toList_ofList, String.length_ofList]

/-- A number that is filled up with zeros has the wanted digits. -/
theorem toList_padded {width number : Nat} (present : 0 < width) (short : number < 10 ^ width) :
    (Calendar.padded width number).toList = decimalDigits width number := by
  rw [toList_padded_eq]
  induction width generalizing number with
  | zero => cases present
  | succ width hypothesis =>
    rcases Nat.lt_or_ge number 10 with digit | more
    · rw [Nat.toDigits_of_lt_base digit, decimalDigits, Nat.div_eq_of_lt digit, Nat.mod_eq_of_lt digit,
        decimalDigits_zero]
      rfl
    · have fewer : number / 10 < 10 ^ width :=
        (Nat.div_lt_iff_lt_mul (by decide)).mpr (by rwa [← Nat.pow_succ])
      have left : 0 < width := Nat.pos_of_ne_zero fun none => by
        rw [none] at short
        omega
      rw [Nat.toDigits_of_base_le (by decide) more, List.length_append, List.length_singleton,
        Nat.add_sub_add_right, ← List.append_assoc, hypothesis left fewer, decimalDigits]

theorem bytes_padded {width number : Nat} (present : 0 < width) (short : number < 10 ^ width) :
    Text.bytes (Calendar.padded width number) = decimalBytes width number := by
  rw [Text.bytes_eq_flatMap, toList_padded present short, decimalBytes]

theorem decimalBytes_succ (count number : Nat) :
    decimalBytes (count + 1) number =
      decimalBytes count (number / 10) ++ [UInt8.ofNat (48 + number % 10)] := by
  have single : ∀ digit < 10,
      String.utf8EncodeChar (Nat.digitChar digit) = [UInt8.ofNat (48 + digit)] := by decide
  rw [decimalBytes, decimalDigits, List.flatMap_append, List.flatMap_singleton,
    single _ (Nat.mod_lt _ (by decide))]
  rfl

theorem length_decimalBytes (count number : Nat) : (decimalBytes count number).length = count := by
  induction count generalizing number with
  | zero => rfl
  | succ count hypothesis =>
    rw [decimalBytes_succ, List.length_append, hypothesis, List.length_singleton]

/-- **Numbers with one count of digits are compared as their digits.** -/
theorem compare_decimalBytes {count first second : Nat} (first_lt : first < 10 ^ count)
    (second_lt : second < 10 ^ count) :
    compare (decimalBytes count first) (decimalBytes count second) = compare first second := by
  induction count generalizing first second with
  | zero =>
    obtain rfl := Nat.lt_one_iff.mp first_lt
    obtain rfl := Nat.lt_one_iff.mp second_lt
    rfl
  | succ count hypothesis =>
    have last : ∀ digit < 10, ∀ other < 10,
        compare [UInt8.ofNat (48 + digit)] [UInt8.ofNat (48 + other)] = compare digit other := by
      decide
    have fewer {number : Nat} (short : number < 10 ^ (count + 1)) : number / 10 < 10 ^ count :=
      (Nat.div_lt_iff_lt_mul (by decide)).mpr (by rwa [← Nat.pow_succ])
    rw [decimalBytes_succ, decimalBytes_succ, compare_append_append
      (by rw [length_decimalBytes, length_decimalBytes]), hypothesis (fewer first_lt) (fewer second_lt),
      last _ (Nat.mod_lt _ (by decide)) _ (Nat.mod_lt _ (by decide)),
      ← Calendar.compare_div_mod (by decide)]

/-! ### Texts of instants -/

namespace Calendar

/-- Whether the year of an instant is written with four digits. -/
def HasFourDigitYear (millis : Int) : Prop :=
  0 ≤ (ofMillis millis).year ∧ (ofMillis millis).year ≤ 9999

instance (millis : Int) : Decidable (HasFourDigitYear millis) := inferInstanceAs (Decidable (_ ∧ _))

/-- The bytes of a moment: year, month, day, hour, minute, second and millisecond. -/
def Moment.bytes (moment : Moment) : List UInt8 :=
  decimalBytes 4 moment.year.toNat ++ (Text.bytes "-" ++ (decimalBytes 2 moment.month ++
    (Text.bytes "-" ++ (decimalBytes 2 moment.day ++ (Text.bytes "T" ++ (decimalBytes 2 moment.hour ++
    (Text.bytes ":" ++ (decimalBytes 2 moment.minute ++ (Text.bytes ":" ++
    (decimalBytes 2 moment.second ++ (Text.bytes "." ++ (decimalBytes 3 moment.millisecond ++
    Text.bytes "Z"))))))))))))

/-- Moments whose parts fit the digits that they are written with. -/
structure Moment.Fits (moment : Moment) : Prop where
  year_nonneg : 0 ≤ moment.year
  year_lt : moment.year < 10000
  month_lt : moment.month < 100
  day_lt : moment.day < 100
  hour_lt : moment.hour < 100
  minute_lt : moment.minute < 100
  second_lt : moment.second < 100
  millisecond_lt : moment.millisecond < 1000

theorem fits_ofMillis {millis : Int} (written : HasFourDigitYear millis) : (ofMillis millis).Fits := by
  obtain ⟨year_nonneg, year_le⟩ := written
  obtain ⟨_, _, dated⟩ := exists_dated (millis / millisPerDay)
  obtain ⟨⟨month_lt, -⟩, day_lt, -⟩ := dated.bounds
  have rest : (millis % millisPerDay).toNat < 86400000 := by
    unfold millisPerDay
    omega
  refine ⟨year_nonneg, by omega, ?_, ?_, ?_, ?_, ?_, ?_⟩
  · show (dateOfDay (millis / millisPerDay)).2.1 < 100
    omega
  · show (dateOfDay (millis / millisPerDay)).2.2 < 100
    omega
  all_goals
    simp only [ofMillis]
    generalize (millis % millisPerDay).toNat = time at rest
    omega

/-- Moments are compared as their bytes. -/
theorem Moment.Fits.compare_bytes {first second : Moment} (one : first.Fits) (other : second.Fits) :
    compare first.bytes second.bytes = first.order second := by
  have part {count left right : Nat} (left_lt : left < 10 ^ count) (right_lt : right < 10 ^ count)
      (leftRest rightRest : List UInt8) :
      compare (decimalBytes count left ++ leftRest) (decimalBytes count right ++ rightRest) =
        (compare left right).then (compare leftRest rightRest) := by
    rw [compare_append_append (by rw [length_decimalBytes, length_decimalBytes]),
      compare_decimalBytes left_lt right_lt]
  have sign (between leftRest rightRest : List UInt8) :
      compare (between ++ leftRest) (between ++ rightRest) = compare leftRest rightRest := by
    rw [compare_append_append rfl, Std.ReflOrd.compare_self]
    rfl
  have year : compare first.year.toNat second.year.toNat = compare first.year second.year := by
    rw [← compare_natCast, Int.toNat_of_nonneg one.year_nonneg, Int.toNat_of_nonneg other.year_nonneg]
  have first_lt : first.year.toNat < 10 ^ 4 := by
    have := one.year_lt
    omega
  have second_lt : second.year.toNat < 10 ^ 4 := by
    have := other.year_lt
    omega
  rw [Moment.bytes, Moment.bytes, part first_lt second_lt, sign, part one.month_lt other.month_lt, sign,
    part one.day_lt other.day_lt, sign, part one.hour_lt other.hour_lt, sign,
    part one.minute_lt other.minute_lt, sign, part one.second_lt other.second_lt, sign,
    part one.millisecond_lt other.millisecond_lt, Std.ReflOrd.compare_self, year, Ordering.then_eq]
  rfl

/-- A later year is a later instant. -/
theorem lt_of_year_lt {first second : Int} (before : (ofMillis first).year < (ofMillis second).year) :
    first < second := by
  refine compare_lt_iff_lt.mp ?_
  rw [compare_ofMillis, Moment.order, compare_lt_iff_lt.mpr before]
  rfl

/-- The first instant of the year 0. -/
def zeroMillis : Int := -62167219200000

/-- **The years with four digits**, in milliseconds. -/
theorem hasFourDigitYear_iff {millis : Int} :
    HasFourDigitYear millis ↔ zeroMillis ≤ millis ∧ millis ≤ lastMillis := by
  have before : (ofMillis (zeroMillis - 1)).year = -1 := by decide
  have first : (ofMillis zeroMillis).year = 0 := by decide
  have last : (ofMillis lastMillis).year = 9999 := by decide
  have after : (ofMillis (lastMillis + 1)).year = 10000 := by decide
  constructor
  · rintro ⟨nonneg, le⟩
    have began : zeroMillis - 1 < millis := lt_of_year_lt (by omega)
    have ends : millis < lastMillis + 1 := lt_of_year_lt (by omega)
    omega
  · rintro ⟨began, ends⟩
    constructor
    · by_contra negative
      have : millis < zeroMillis := lt_of_year_lt (by omega)
      omega
    · by_contra late
      have : lastMillis < millis := lt_of_year_lt (by omega)
      omega

/-- **The bytes of a stored instant.** -/
theorem bytes_stored {millis : Int} (written : HasFourDigitYear millis) :
    Text.bytes (stored millis) = (ofMillis millis).bytes := by
  have least : (ofMillis storedMin).year = -262143 := by decide
  have greatest : (ofMillis storedMax).year = 262142 := by decide
  have within : max storedMin (min storedMax millis) = millis := by
    have above : storedMin < millis := lt_of_year_lt (by have := written.1; omega)
    have below : millis < storedMax := lt_of_year_lt (by have := written.2; omega)
    omega
  obtain ⟨_, year_lt, month_lt, day_lt, hour_lt, minute_lt, second_lt, millisecond_lt⟩ :=
    fits_ofMillis written
  have year : signedYear (ofMillis millis).year = padded 4 (ofMillis millis).year.toNat :=
    if_pos written
  simp only [stored, within, year, monthDay, minuteSecond, Text.bytes_append, Moment.bytes,
    List.append_assoc]
  rw [bytes_padded (by decide) (show (ofMillis millis).year.toNat < 10 ^ 4 by omega),
    bytes_padded (by decide) (show (ofMillis millis).month < 10 ^ 2 from month_lt),
    bytes_padded (by decide) (show (ofMillis millis).day < 10 ^ 2 from day_lt),
    bytes_padded (by decide) (show (ofMillis millis).hour < 10 ^ 2 from hour_lt),
    bytes_padded (by decide) (show (ofMillis millis).minute < 10 ^ 2 from minute_lt),
    bytes_padded (by decide) (show (ofMillis millis).second < 10 ^ 2 from second_lt),
    bytes_padded (by decide) (show (ofMillis millis).millisecond < 10 ^ 3 from millisecond_lt)]

/-- Stored instants are compared as instants. -/
theorem compare_bytes_stored {first second : Int} (one : HasFourDigitYear first)
    (other : HasFourDigitYear second) :
    compare (Text.bytes (stored first)) (Text.bytes (stored second)) = compare first second := by
  rw [bytes_stored one, bytes_stored other, (fits_ofMillis one).compare_bytes (fits_ofMillis other),
    ← compare_ofMillis]

end Calendar

namespace Sql

/-- **Stored instants keep their order**: the texts of instants from the years 0 to 9999 are compared,
byte by byte, as the instants are in milliseconds; and only one instant has a text. -/
theorem compare_stored (first second : Int64) (one : Calendar.HasFourDigitYear first.toInt)
    (other : Calendar.HasFourDigitYear second.toInt) :
    ∃ left right, StoredValue.ofValue (.dateTime first) = .text left ∧
      StoredValue.ofValue (.dateTime second) = .text right ∧
      compare (Text.bytes left) (Text.bytes right) = compare first.toInt second.toInt ∧
      (left = right ↔ first = second) := by
  refine ⟨_, _, rfl, rfl, Calendar.compare_bytes_stored one other, ?_, fun same => same ▸ rfl⟩
  intro same
  have equal := Calendar.compare_bytes_stored one other
  rw [same, Std.ReflOrd.compare_self] at equal
  exact Int64.toInt_inj.mp (compare_eq_iff_eq.mp equal.symm)

/-- The last millisecond of 1969 and a leap day. -/
theorem compare_stored_leapDay :
    Calendar.HasFourDigitYear (-1) ∧ Calendar.HasFourDigitYear 951782400000 ∧
    StoredValue.ofValue (.dateTime (-1)) = .text "1969-12-31T23:59:59.999Z" ∧
    StoredValue.ofValue (.dateTime 951782400000) = .text "2000-02-29T00:00:00.000Z" ∧
    compare (Text.bytes "1969-12-31T23:59:59.999Z") (Text.bytes "2000-02-29T00:00:00.000Z") = .lt := by
  have one : Calendar.HasFourDigitYear (-1) := by decide
  have other : Calendar.HasFourDigitYear 951782400000 := by decide
  obtain ⟨left, right, former, latter, order, -⟩ := compare_stored (-1) 951782400000 one other
  have early : StoredValue.ofValue (.dateTime (-1)) = .text "1969-12-31T23:59:59.999Z" := rfl
  have late : StoredValue.ofValue (.dateTime 951782400000) = .text "2000-02-29T00:00:00.000Z" := rfl
  obtain rfl := StoredValue.text.inj (early.symm.trans former)
  obtain rfl := StoredValue.text.inj (late.symm.trans latter)
  exact ⟨one, other, early, late, order⟩

/-- Past the year 9999 a sign stands before the year, and texts are not in order any more. -/
example : compare (Text.bytes (Calendar.stored (Calendar.lastMillis + 1)))
    (Text.bytes (Calendar.stored Calendar.lastMillis)) = .lt := by decide

end Sql

end Polystore
