/-
**Instants and their texts in messages.**

Within its range of years the text of an instant has its parts between characters that are no digits, and
only there it has a blank. Each part is read back as a number, the fraction after the zeros that it lacks.

* `ofMillis_injective`: no two instants have the same parts;
* `display_injective`: no two instants have one text.
-/

import Polystore.Proofs.Calendar.Gregorian
import Polystore.Proofs.Number.Numeral
import Polystore.Proofs.Storage.Instants
import Polystore.Proofs.Text.Plain

namespace Polystore.Calendar

/-- **No two instants have the same parts.** -/
theorem ofMillis_injective : Function.Injective ofMillis := by
  intro first second same
  have order := compare_ofMillis first second
  rw [same, ← compare_ofMillis second second, compare_eq_iff_eq.mpr rfl] at order
  exact compare_eq_iff_eq.mp order

section Parts

variable {first second : Nat} {mark : Char} {left right : List Char}

theorem areDigits_padded (width number : Nat) : AreDigits (padded width number).toList := by
  rw [toList_padded_eq]
  exact (areDigits_zeros _).append (areDigits_toDigits number)

/-- A number that is filled up with zeros is read back. -/
theorem ofDigitChars_padded (width number : Nat) :
    Nat.ofDigitChars 10 (padded width number).toList 0 = number := by
  rw [toList_padded_eq, ofDigitChars_zeros, Nat.ofDigitChars_ten_toDigits]

theorem padded_inj {width : Nat} (same : (padded width first).toList = (padded width second).toList) :
    first = second := by
  rw [← ofDigitChars_padded width first, same, ofDigitChars_padded]

/-- Digits are told from a mark behind them. -/
theorem digits_inj {digits others : List Char} (areDigits : AreDigits digits) (also : AreDigits others)
    (other : mark.isDigit = false) (same : digits ++ mark :: left = others ++ mark :: right) :
    digits = others ∧ left = right := by
  have inside {text : List Char} (areDigits : AreDigits text) :
      ∀ character ∈ text, (!character.isDigit) = false := fun character member => by
    rw [areDigits character member]
    rfl
  obtain ⟨digits, behind⟩ := Text.append_inj_of_stop (inside areDigits) (inside also)
    (by simpa using other) (by simpa using other) same
  exact ⟨digits, (List.cons.inj behind).2⟩

/-- The digits of a fraction, at least one. -/
def ending (millisecond : Nat) : String := if millisecond = 0 then "0" else fraction millisecond

/-- What is cut off at the end of a text are zeros. -/
theorem exists_zeros (text : List Char) : ∃ zeros,
    text = (text.reverse.dropWhile (· == '0')).reverse ++ List.replicate zeros '0' := by
  have zeros : ∀ character ∈ (text.reverse.takeWhile (· == '0')).reverse, character = '0' := by
    intro character inside
    simpa using List.mem_takeWhile_imp (List.mem_reverse.mp inside)
  refine ⟨(text.reverse.takeWhile (· == '0')).reverse.length, ?_⟩
  rw [← List.eq_replicate_of_mem zeros, ← List.reverse_append, List.takeWhile_append_dropWhile,
    List.reverse_reverse]

/-- A fraction lacks some zeros. -/
theorem exists_ending (millisecond : Nat) : ∃ zeros,
    (padded 3 millisecond).toList = (ending millisecond).toList ++ List.replicate zeros '0' := by
  unfold ending
  split
  · rename_i zero
    subst zero
    exact ⟨2, by decide⟩
  · rw [fraction, String.toList_ofList]
    exact exists_zeros _

theorem ending_inj (first_lt : first < 1000) (second_lt : second < 1000)
    (same : ending first = ending second) : first = second := by
  have length {millisecond : Nat} (short : millisecond < 1000) :
      (padded 3 millisecond).toList.length = 3 := by
    rw [toList_padded (by decide) short, decimalDigits, decimalDigits, decimalDigits, decimalDigits]
    rfl
  obtain ⟨zeros, filled⟩ := exists_ending first
  obtain ⟨others, also⟩ := exists_ending second
  -- Both fractions are filled up to three digits, so they lack equally many zeros.
  have count : zeros = others := by
    have left := length first_lt
    have right := length second_lt
    rw [filled, List.length_append, List.length_replicate, same] at left
    rw [also, List.length_append, List.length_replicate] at right
    omega
  have padded_eq : (padded 3 first).toList = (padded 3 second).toList := by
    rw [filled, also, same, count]
  exact padded_inj padded_eq

theorem areDigits_ending (millisecond : Nat) : AreDigits (ending millisecond).toList := by
  obtain ⟨zeros, filled⟩ := exists_ending millisecond
  exact fun character inside => areDigits_padded 3 millisecond character
    (filled ▸ List.mem_append_left _ inside)

end Parts

/-- The text of a moment. -/
def Moment.display (moment : Moment) : String :=
  (if moment.year < 0 then "-" else "") ++ padded 4 moment.year.natAbs ++ monthDay moment ++ " "
    ++ toString moment.hour ++ minuteSecond moment ++ "." ++ ending moment.millisecond ++ " +00:00:00"

theorem Moment.toList_display (moment : Moment) : moment.display.toList =
    signed (moment.year < 0) ((padded 4 moment.year.natAbs).toList ++ '-' :: ((padded 2 moment.month).toList ++
      '-' :: ((padded 2 moment.day).toList ++ ' ' :: (Nat.toDigits 10 moment.hour ++
      ':' :: ((padded 2 moment.minute).toList ++ ':' :: ((padded 2 moment.second).toList ++
      '.' :: ((ending moment.millisecond).toList ++ ' ' :: "+00:00:00".toList))))))) := by
  rw [Moment.display, monthDay, minuteSecond, signed, ← toList_toString]
  by_cases negative : moment.year < 0
  · simp [negative, String.toList_append]
  · simp [negative, String.toList_append]

/-- A number that is filled up with zeros begins with a digit. -/
theorem head?_padded_ne (width number : Nat) (behind : List Char) :
    ((padded width number).toList ++ behind).head? ≠ some '-' := by
  intro first
  have present : (padded width number).toList ≠ [] := by
    rw [toList_padded_eq]
    exact List.append_ne_nil_of_right_ne_nil _ Nat.toDigits_ne_nil
  rw [List.head?_append_of_ne_nil _ present] at first
  exact absurd (areDigits_padded width number _ (List.mem_of_mem_head? first)) (by decide)

/-- **No two moments have one text.** -/
theorem Moment.display_inj {first second : Moment} (first_lt : first.millisecond < 1000)
    (second_lt : second.millisecond < 1000) (same : first.display = second.display) : first = second := by
  have chars := congrArg String.toList same
  rw [Moment.toList_display, Moment.toList_display] at chars
  obtain ⟨sign, chars⟩ := signed_inj (head?_padded_ne _ _ _) (head?_padded_ne _ _ _) chars
  obtain ⟨year, chars⟩ := digits_inj (areDigits_padded _ _) (areDigits_padded _ _) (by decide) chars
  obtain ⟨month, chars⟩ := digits_inj (areDigits_padded _ _) (areDigits_padded _ _) (by decide) chars
  obtain ⟨day, chars⟩ := digits_inj (areDigits_padded _ _) (areDigits_padded _ _) (by decide) chars
  obtain ⟨hour, chars⟩ := digits_inj (areDigits_toDigits _) (areDigits_toDigits _) (by decide) chars
  obtain ⟨minute, chars⟩ := digits_inj (areDigits_padded _ _) (areDigits_padded _ _) (by decide) chars
  obtain ⟨seconds, chars⟩ := digits_inj (areDigits_padded _ _) (areDigits_padded _ _) (by decide) chars
  obtain ⟨fraction, -⟩ := digits_inj (areDigits_ending _) (areDigits_ending _) (by decide) chars
  have years := padded_inj year
  have negative := decide_eq_decide.mp sign
  have hours : first.hour = second.hour := by
    rw [← Nat.ofDigitChars_ten_toDigits (n := first.hour), hour, Nat.ofDigitChars_ten_toDigits]
  cases first
  cases second
  simp only at *
  rw [Moment.mk.injEq]
  exact ⟨by omega, padded_inj month, padded_inj day, hours, padded_inj minute, padded_inj seconds,
    ending_inj first_lt second_lt (String.toList_inj.mp fraction)⟩

theorem display_eq (millis : Int) : display millis =
    if millis < firstMillis ∨ lastMillis < millis then toString millis else (ofMillis millis).display := rfl

/-- A moment has a blank in its text, an integer has none. -/
theorem Moment.display_ne (moment : Moment) (number : Int) : moment.display ≠ toString number := by
  intro same
  have blank : ' ' ∈ (toString number).toList := by
    rw [← same, Moment.toList_display, signed]
    simp
  rw [toList_toString_int] at blank
  rcases List.mem_append.mp blank with sign | digit
  · split at sign
    · exact absurd sign (by decide)
    · cases sign
  · exact absurd (areDigits_toDigits _ _ digit) (by decide)

/-- **No two instants have one text.** -/
theorem display_injective : Function.Injective display := by
  intro first second same
  have short (millis : Int) : (ofMillis millis).millisecond < 1000 := Nat.mod_lt _ (by decide)
  rw [display_eq, display_eq] at same
  split at same <;> split at same
  · exact toString_int_inj same
  · exact absurd same.symm (Moment.display_ne _ _)
  · exact absurd same (Moment.display_ne _ _)
  · exact ofMillis_injective (Moment.display_inj (short first) (short second) same)

/-- **The text of an instant is plain.** -/
theorem isPlain_display (millis : Int) : Text.isPlain (display millis) = true := by
  have digits {text : String} (areDigits : AreDigits text.toList) : Text.isPlain text = true := by
    rw [Text.isPlain, List.all_eq_true]
    intro digit inside
    rw [Text.isSign_of_isDigit (areDigits digit inside)]
    rfl
  have padded_plain (width number : Nat) := digits (areDigits_padded width number)
  have sign (flag : Prop) [Decidable flag] : Text.isPlain (if flag then "-" else "") = true := by
    split <;> rfl
  rw [display_eq]
  split
  · exact Text.isPlain_int millis
  · simp only [Moment.display, monthDay, minuteSecond, Text.isPlain_append, padded_plain, sign,
      Text.isPlain_digits, digits (areDigits_ending _), Bool.and_true, Bool.true_and]
    decide

end Polystore.Calendar
