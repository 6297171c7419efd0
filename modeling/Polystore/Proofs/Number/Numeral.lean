/-
**Numerals that are read back.**

Both the texts of doubles and those of decimal numbers are digits with a point among them, or digits with
the point behind the first one, a mark and an exponent.

* `readNumeral_placed`, `readNumeral_placed_whole`, `readNumeral_placed_zero`: what is read where the point
  stands in its place;
* `readNumeral_scientific`: what is read where an exponent follows;
* `signed_inj`: a sign is told from what stands behind it.
-/

import Mathlib.Algebra.Order.Ring.Int
import Mathlib.Data.List.TakeWhile
import Polystore.Number.Decimal128
import Polystore.Number.Layout

namespace Polystore

open Shortest

/-- The integer written by decimal digits behind an optional sign. -/
def readInteger : List Char → Int
  | '-' :: digits => -(Nat.ofDigitChars 10 digits 0 : Int)
  | '+' :: digits => Nat.ofDigitChars 10 digits 0
  | digits => Nat.ofDigitChars 10 digits 0

/-- The digits of a numeral without the point, and the power of ten that they count; behind a mark stands
an exponent. -/
def readNumeral (mark : Char) (text : List Char) : Decimal :=
  let mantissa := text.takeWhile (· != mark)
  let whole := mantissa.takeWhile (· != '.')
  let fraction := (mantissa.dropWhile (· != '.')).drop 1
  let exponent := readInteger ((text.dropWhile (· != mark)).drop 1)
  ⟨Nat.ofDigitChars 10 (whole ++ fraction) 0, exponent - fraction.length⟩

/-! ### Written numbers -/

theorem toList_toString (number : Nat) : (toString number).toList = Nat.toDigits 10 number := by
  rw [Nat.toString_eq_ofList_toDigits, String.toList_ofList]

theorem toList_toString_int (number : Int) : (toString number).toList =
    (if number < 0 then ['-'] else []) ++ Nat.toDigits 10 number.natAbs := by
  rw [Int.toString_eq_repr, Int.repr_eq_if]
  by_cases negative : number < 0
  · rw [if_neg (by omega), if_pos negative, String.toList_append, Nat.toList_repr]
    congr 2
    omega
  · rw [if_pos (by omega), if_neg negative, Nat.toList_repr, List.nil_append]
    congr 1
    omega

/-! ### What is read -/

section Reading

variable {mark : Char} {whole fraction digits mantissa : List Char}

/-- Whether a text consists of decimal digits. -/
def AreDigits (text : List Char) : Prop := ∀ character ∈ text, character.isDigit = true

theorem areDigits_toDigits (number : Nat) : AreDigits (Nat.toDigits 10 number) :=
  fun _ member => Nat.isDigit_of_mem_toDigits (by decide) (by decide) member

theorem areDigits_zeros (count : Nat) : AreDigits (List.replicate count '0') :=
  fun _ member => List.eq_of_mem_replicate member ▸ by decide

theorem areDigits_zero : AreDigits ['0'] := areDigits_zeros 1

theorem AreDigits.append (former : AreDigits whole) (latter : AreDigits fraction) :
    AreDigits (whole ++ fraction) :=
  fun character member => (List.mem_append.mp member).elim (former character) (latter character)

theorem AreDigits.ne (digits : AreDigits whole) (other : mark.isDigit = false) :
    ∀ character ∈ whole, (character != mark) = true := fun character member => by
  rw [bne_iff_ne]
  rintro rfl
  rw [digits character member] at other
  cases other

theorem readInteger_digits (areDigits : AreDigits digits) :
    readInteger digits = Nat.ofDigitChars 10 digits 0 := by
  unfold readInteger
  split
  · exact absurd (areDigits '-' List.mem_cons_self) (by decide)
  · exact absurd (areDigits '+' List.mem_cons_self) (by decide)
  · rfl

/-- The sign of an integer is read with its digits. -/
theorem readInteger_signed (number : Int) (positive : List Char) (sign : positive = [] ∨ positive = ['+']) :
    readInteger ((if number < 0 then ['-'] else positive) ++ Nat.toDigits 10 number.natAbs) = number := by
  split
  · show -(Nat.ofDigitChars 10 (Nat.toDigits 10 number.natAbs) 0 : Int) = number
    rw [Nat.ofDigitChars_ten_toDigits]
    omega
  · have read : readInteger (positive ++ Nat.toDigits 10 number.natAbs) =
        Nat.ofDigitChars 10 (Nat.toDigits 10 number.natAbs) 0 := by
      rcases sign with rfl | rfl
      · exact readInteger_digits (areDigits_toDigits _)
      · rfl
    rw [read, Nat.ofDigitChars_ten_toDigits]
    omega

/-- Integers are told apart by their texts. -/
theorem toString_int_inj {first second : Int} (same : toString first = toString second) : first = second := by
  have read (number : Int) : readInteger (toString number).toList = number := by
    rw [toList_toString_int]
    exact readInteger_signed number [] (.inl rfl)
  rw [← read first, same, read]

/-- A mantissa without a mark is read without an exponent. -/
theorem readNumeral_mantissa (unmarked : ∀ character ∈ mantissa, (character != mark) = true) :
    readNumeral mark mantissa =
      ⟨Nat.ofDigitChars 10 (mantissa.takeWhile (· != '.') ++ (mantissa.dropWhile (· != '.')).drop 1) 0,
        -((mantissa.dropWhile (· != '.')).drop 1).length⟩ := by
  have taken : mantissa.takeWhile (· != mark) = mantissa := List.takeWhile_eq_self_iff.mpr unmarked
  have dropped : mantissa.dropWhile (· != mark) = [] := List.dropWhile_eq_nil_iff.mpr unmarked
  simp only [readNumeral, taken, dropped, List.drop_nil]
  congr 1
  exact Int.zero_sub _

/-- A whole number is read as it is. -/
theorem readNumeral_whole (other : mark.isDigit = false) (areDigits : AreDigits whole) :
    readNumeral mark whole = ⟨Nat.ofDigitChars 10 whole 0, 0⟩ := by
  rw [readNumeral_mantissa (areDigits.ne other),
    List.takeWhile_eq_self_iff.mpr (areDigits.ne (by decide)),
    List.dropWhile_eq_nil_iff.mpr (areDigits.ne (by decide))]
  simp

/-- The digits behind the point make the power of ten smaller. -/
theorem readNumeral_pointed (other : mark.isDigit = false) (different : mark ≠ '.')
    (former : AreDigits whole) (latter : AreDigits fraction) :
    readNumeral mark (whole ++ '.' :: fraction) =
      ⟨Nat.ofDigitChars 10 (whole ++ fraction) 0, -fraction.length⟩ := by
  have unmarked : ∀ character ∈ whole ++ '.' :: fraction, (character != mark) = true := by
    intro character member
    rcases List.mem_append.mp member with inside | inside
    · exact former.ne other character inside
    · rcases List.mem_cons.mp inside with rfl | inside
      · exact bne_iff_ne.mpr different.symm
      · exact latter.ne other character inside
  have taken : (whole ++ '.' :: fraction).takeWhile (· != '.') = whole := by
    rw [List.takeWhile_append_of_pos (former.ne (by decide))]
    simp
  have dropped : (whole ++ '.' :: fraction).dropWhile (· != '.') = '.' :: fraction := by
    rw [List.dropWhile_append_of_pos (former.ne (by decide))]
    simp
  rw [readNumeral_mantissa unmarked, taken, dropped, List.drop_one, List.tail_cons]

/-- What stands behind a mark is added to the exponent. -/
theorem readNumeral_marked (unmarked : ∀ character ∈ mantissa, (character != mark) = true)
    (exponent : List Char) :
    readNumeral mark (mantissa ++ mark :: exponent) =
      ⟨(readNumeral mark mantissa).digits,
        readInteger exponent + (readNumeral mark mantissa).exponent⟩ := by
  have taken : (mantissa ++ mark :: exponent).takeWhile (· != mark) = mantissa := by
    rw [List.takeWhile_append_of_pos unmarked]
    simp
  have dropped : (mantissa ++ mark :: exponent).dropWhile (· != mark) = mark :: exponent := by
    rw [List.dropWhile_append_of_pos unmarked]
    simp
  rw [readNumeral_mantissa unmarked]
  simp only [readNumeral, taken, dropped, List.drop_one, List.tail_cons]
  rfl

/-- Zeros before a number do not matter. -/
theorem ofDigitChars_zeros (count : Nat) (digits : List Char) :
    Nat.ofDigitChars 10 (List.replicate count '0' ++ digits) 0 = Nat.ofDigitChars 10 digits 0 := by
  rw [Nat.ofDigitChars_append, Nat.ofDigitChars_replicate_zero, Nat.mul_zero]

/-- Digits with the point among them or in front of them are read as they are. -/
theorem readNumeral_placed (other : mark.isDigit = false) (different : mark ≠ '.')
    (areDigits : AreDigits digits) (ending : String) {point : Int} (short : point < digits.length) :
    readNumeral mark (Layout.placed ending digits point).toList =
      ⟨Nat.ofDigitChars 10 digits 0, point - digits.length⟩ := by
  unfold Layout.placed
  split
  · have written : ("0." ++ Layout.zeros (-point).toNat ++ String.ofList digits).toList =
        ['0'] ++ '.' :: (List.replicate (-point).toNat '0' ++ digits) := by
      simp [Layout.zeros]
    have zeros : ['0'] ++ (List.replicate (-point).toNat '0' ++ digits) =
        List.replicate ((-point).toNat + 1) '0' ++ digits := rfl
    rw [written, readNumeral_pointed other different areDigits_zero
      ((areDigits_zeros _).append areDigits), zeros, ofDigitChars_zeros, List.length_append,
      List.length_replicate]
    congr 1
    omega
  · have inside : ¬ digits.length ≤ point.toNat := by omega
    have written : (String.ofList (digits.take point.toNat) ++ "." ++
        String.ofList (digits.drop point.toNat)).toList =
          digits.take point.toNat ++ '.' :: digits.drop point.toNat := by
      simp
    simp only [if_neg inside]
    rw [written, readNumeral_pointed other different
      (fun _ member => areDigits _ (List.mem_of_mem_take member))
      (fun _ member => areDigits _ (List.mem_of_mem_drop member)), List.take_append_drop,
      List.length_drop]
    congr 1
    omega

/-- The point behind all digits is not written. -/
theorem placed_length (present : digits ≠ []) :
    Layout.placed "" digits digits.length = String.ofList digits := by
  have filled : 0 < digits.length := List.length_pos_iff.mpr present
  rw [Layout.placed, if_neg (by omega)]
  simp [Layout.zeros]

/-- A whole number is filled up with zeros. -/
theorem readNumeral_placed_whole (other : mark.isDigit = false) (areDigits : AreDigits digits) {point : Int}
    (present : 0 < point) (long : digits.length ≤ point) :
    readNumeral mark (Layout.placed "" digits point).toList =
      ⟨Nat.ofDigitChars 10 digits 0 * 10 ^ (point.toNat - digits.length), 0⟩ := by
  have inside : digits.length ≤ point.toNat := by omega
  have written : (String.ofList digits ++ Layout.zeros (point.toNat - digits.length) ++ "").toList =
      digits ++ List.replicate (point.toNat - digits.length) '0' := by
    simp [Layout.zeros]
  simp only [Layout.placed, if_neg (not_le.mpr present), if_pos inside]
  rw [written, readNumeral_whole other (areDigits.append (areDigits_zeros _)), Nat.ofDigitChars_append,
    Nat.ofDigitChars_replicate_zero, Nat.mul_comm]

/-- A whole number that ends with a point and a zero has one digit more. -/
theorem readNumeral_placed_zero (other : mark.isDigit = false) (different : mark ≠ '.')
    (areDigits : AreDigits digits) {point : Int} (present : 0 < point) (long : digits.length ≤ point) :
    readNumeral mark (Layout.placed ".0" digits point).toList =
      ⟨Nat.ofDigitChars 10 digits 0 * 10 ^ (point.toNat - digits.length + 1), -1⟩ := by
  have inside : digits.length ≤ point.toNat := by omega
  have written : (String.ofList digits ++ Layout.zeros (point.toNat - digits.length) ++ ".0").toList =
      (digits ++ List.replicate (point.toNat - digits.length) '0') ++ '.' :: ['0'] := by
    simp [Layout.zeros]
  simp only [Layout.placed, if_neg (not_le.mpr present), if_pos inside]
  rw [written, readNumeral_pointed other different (areDigits.append (areDigits_zeros _)) areDigits_zero,
    List.append_assoc, ← List.replicate_succ', Nat.ofDigitChars_append, Nat.ofDigitChars_replicate_zero,
    Nat.mul_comm]
  rfl

/-- Digits with the point behind the first one, and an exponent. -/
theorem readNumeral_scientific (other : mark.isDigit = false) (different : mark ≠ '.')
    (areDigits : AreDigits digits) (present : digits ≠ []) (exponent : List Char) :
    readNumeral mark (digits.take 1 ++ (if digits.length ≤ 1 then [] else '.' :: digits.drop 1) ++
        mark :: exponent) =
      ⟨Nat.ofDigitChars 10 digits 0, readInteger exponent - (digits.length - 1 : Nat)⟩ := by
  obtain ⟨head, rest, rfl⟩ := List.exists_cons_of_ne_nil present
  obtain ⟨first, others⟩ := List.forall_mem_cons.mp areDigits
  have single : AreDigits [head] := List.forall_mem_singleton.mpr first
  cases rest with
  | nil =>
    have unmarked : ∀ character ∈ [head], (character != mark) = true := single.ne other
    show readNumeral mark ([head] ++ mark :: exponent) = _
    rw [readNumeral_marked unmarked, readNumeral_whole other single]
    simp
  | cons second rest =>
    have unmarked : ∀ character ∈ [head] ++ '.' :: second :: rest, (character != mark) = true := by
      intro character member
      rcases List.mem_append.mp member with inside | inside
      · exact single.ne other character inside
      · rcases List.mem_cons.mp inside with rfl | inside
        · exact bne_iff_ne.mpr different.symm
        · exact AreDigits.ne others other character inside
    have written : (head :: second :: rest).take 1 ++
        (if (head :: second :: rest).length ≤ 1 then [] else '.' :: (head :: second :: rest).drop 1) =
          [head] ++ '.' :: second :: rest := by simp
    rw [written, readNumeral_marked unmarked, readNumeral_pointed other different single others]
    simp only [List.singleton_append, List.length_cons]
    congr 1

/-- Such texts begin with a digit. -/
theorem exists_head_placed (areDigits : AreDigits digits) (present : digits ≠ []) (ending : String)
    (point : Int) :
    ∃ head ∈ (Layout.placed ending digits point).toList.head?, head.isDigit = true := by
  obtain ⟨head, rest, rfl⟩ := List.exists_cons_of_ne_nil present
  have first : head.isDigit = true := areDigits head List.mem_cons_self
  unfold Layout.placed
  split
  · exact ⟨'0', by simp, by decide⟩
  · rename_i positive
    obtain ⟨before, count⟩ : ∃ before, point.toNat = before + 1 := ⟨point.toNat - 1, by omega⟩
    simp only
    split
    · exact ⟨head, by simp, first⟩
    · exact ⟨head, by simp [count], first⟩

theorem exists_head_scientific (areDigits : AreDigits digits) (present : digits ≠ [])
    (behind : List Char) : ∃ head ∈ (digits.take 1 ++ behind).head?, head.isDigit = true := by
  obtain ⟨head, rest, rfl⟩ := List.exists_cons_of_ne_nil present
  exact ⟨head, rfl, areDigits head List.mem_cons_self⟩

/-- A text with a minus sign in front if it is negative. -/
def signed (negative : Bool) (text : List Char) : List Char := (if negative then ['-'] else []) ++ text

/-- Whether a digit stands behind the sign, if there is one. -/
def beginsWithDigit : List Char → Bool
  | '-' :: head :: _ => head.isDigit
  | head :: _ => head.isDigit
  | [] => false

theorem beginsWithDigit_signed (negative : Bool) {text : List Char}
    (begins : ∃ head ∈ text.head?, head.isDigit = true) : beginsWithDigit (signed negative text) = true := by
  obtain ⟨head, first, digit⟩ := begins
  cases text with
  | nil => cases first
  | cons other rest =>
    obtain rfl := Option.some.inj first
    cases negative with
    | true => exact digit
    | false =>
      show beginsWithDigit (other :: rest) = true
      unfold beginsWithDigit
      split
      · rename_i same
        rw [(List.cons.inj same).1] at digit
        exact absurd digit (by decide)
      · rename_i same
        rw [← (List.cons.inj same).1]
        exact digit
      · rename_i same
        cases same

/-- A text that begins with a digit begins with nothing else. -/
theorem head?_ne_of_isDigit {text : List Char} {character : Char}
    (begins : ∃ head ∈ text.head?, head.isDigit = true) (other : character.isDigit = false) :
    text.head? ≠ some character := by
  obtain ⟨head, first, digit⟩ := begins
  rw [first, ne_eq, Option.some.injEq]
  rintro rfl
  rw [digit] at other
  cases other

/-- A sign is told from what stands behind it. -/
theorem signed_inj {first second : Bool} {left right : List Char} (former : left.head? ≠ some '-')
    (latter : right.head? ≠ some '-') (same : signed first left = signed second right) :
    first = second ∧ left = right := by
  cases first <;> cases second
  · exact ⟨rfl, same⟩
  · rw [show left = '-' :: right from same] at former
    exact absurd rfl former
  · rw [show right = '-' :: left from same.symm] at latter
    exact absurd rfl latter
  · exact ⟨rfl, (List.cons.inj same).2⟩

end Reading

end Polystore
