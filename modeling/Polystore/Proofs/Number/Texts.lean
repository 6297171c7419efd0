/-
**Numbers and their texts.**

The text of a decimal number is read back with its trailing zeros, and that of a finite double as its
shortest digits, which lie in no other double's interval. Signs, infinities and what is no number are told
from each other by the first characters.

* `Decimal128.text_injective`: no two decimal numbers have one text;
* `Layout.value_readNumeral_absolute`: what is read from the text of a finite double;
* `Layout.text_debug_eq_iff`: doubles have one text in descriptions exactly if they print alike.
-/

import Mathlib.Tactic.FieldSimp
import Polystore.Proofs.Number.Numeral
import Polystore.Proofs.Number.Shortest
import Polystore.Value.Equality

namespace Polystore

open Binary64 Shortest

/-! ### Decimal numbers -/

namespace Decimal128

/-- The text of a number that is not negative, by its digits. -/
theorem toList_unsignedText (coefficient : Nat) (exponent : Int) :
    (unsignedText coefficient exponent).toList =
      let digits := Nat.toDigits 10 coefficient
      let adjusted := exponent + digits.length - 1
      if exponent ≤ 0 ∧ -6 ≤ adjusted then (Layout.placed "" digits (digits.length + exponent)).toList
      else
        digits.take 1 ++ (if digits.length ≤ 1 then [] else '.' :: digits.drop 1) ++
          'E' :: ((if adjusted < 0 then ['-'] else if 0 < adjusted then ['+'] else []) ++
            Nat.toDigits 10 adjusted.natAbs) := by
  have present : Nat.toDigits 10 coefficient ≠ [] := Nat.toDigits_ne_nil
  rw [unsignedText, toList_toString]
  generalize Nat.toDigits 10 coefficient = digits at present
  have filled : 0 < digits.length := List.length_pos_iff.mpr present
  simp only
  split
  · rename_i positional
    by_cases whole : (-exponent).toNat = 0
    · obtain rfl : exponent = 0 := by omega
      rw [if_pos whole, Int.add_zero, placed_length present]
    · rw [if_neg whole, Layout.placed]
      by_cases front : digits.length ≤ (-exponent).toNat
      · have zeros : (-(digits.length + exponent)).toNat = (-exponent).toNat - digits.length := by omega
        rw [if_pos front, if_pos (by omega), zeros]
        simp [Layout.zeros]
      · have among : (digits.length + exponent).toNat = digits.length - (-exponent).toNat := by omega
        rw [if_neg front, if_neg (by omega), among]
        simp only
        rw [if_neg (by omega)]
  · generalize exponent + digits.length - 1 = adjusted
    have signed : (if 0 < adjusted then "+" else "").toList ++ (toString adjusted).toList =
        (if adjusted < 0 then ['-'] else if 0 < adjusted then ['+'] else []) ++
          Nat.toDigits 10 adjusted.natAbs := by
      rw [toList_toString_int]
      by_cases negative : adjusted < 0
      · rw [if_pos negative, if_neg (by omega), if_pos negative]
        rfl
      · rw [if_neg negative, if_neg negative]
        split <;> rfl
    rw [← signed]
    split <;> simp

/-- **The text of a number is read back.** -/
theorem readNumeral_unsignedText (coefficient : Nat) (exponent : Int) :
    readNumeral 'E' (unsignedText coefficient exponent).toList = ⟨coefficient, exponent⟩ := by
  have areDigits := areDigits_toDigits coefficient
  have present : Nat.toDigits 10 coefficient ≠ [] := Nat.toDigits_ne_nil
  have filled : 0 < (Nat.toDigits 10 coefficient).length := List.length_pos_iff.mpr present
  rw [toList_unsignedText]
  simp only
  split
  · rename_i positional
    rcases Int.lt_or_eq_of_le positional.1 with below | rfl
    · rw [readNumeral_placed (by decide) (by decide) areDigits _ (by omega),
        Nat.ofDigitChars_ten_toDigits]
      congr 1
      omega
    · rw [Int.add_zero, placed_length present, String.toList_ofList,
        readNumeral_whole (by decide) areDigits, Nat.ofDigitChars_ten_toDigits]
  · rw [readNumeral_scientific (by decide) (by decide) areDigits present, Nat.ofDigitChars_ten_toDigits,
      readInteger_signed _ _ (by split <;> simp)]
    congr 1
    omega

theorem exists_head_unsignedText (coefficient : Nat) (exponent : Int) :
    ∃ head ∈ (unsignedText coefficient exponent).toList.head?, head.isDigit = true := by
  rw [toList_unsignedText]
  simp only
  split
  · exact exists_head_placed (areDigits_toDigits _) Nat.toDigits_ne_nil _ _
  · rw [List.append_assoc]
    exact exists_head_scientific (areDigits_toDigits _) Nat.toDigits_ne_nil _

theorem toList_text_finite (negative : Bool) (coefficient : Nat) (exponent : Int) :
    (text (.finite negative coefficient exponent)).toList =
      signed negative (unsignedText coefficient exponent).toList := by
  rw [text, String.toList_append, signed]
  cases negative <;> rfl

/-- The values that are no numbers. -/
def words : List Decimal128 := [.notANumber false, .notANumber true, .infinity false, .infinity true]

theorem mem_words_of_beginsWithDigit {number : Decimal128}
    (letter : beginsWithDigit number.text.toList = false) : number ∈ words := by
  cases number with
  | notANumber signalling => cases signalling <;> decide
  | infinity negative => cases negative <;> decide
  | finite negative coefficient exponent =>
    rw [toList_text_finite, beginsWithDigit_signed negative (exists_head_unsignedText ..)] at letter
    cases letter

theorem exists_of_beginsWithDigit {number : Decimal128}
    (digit : beginsWithDigit number.text.toList = true) :
    ∃ negative coefficient exponent, number = .finite negative coefficient exponent := by
  cases number with
  | notANumber signalling => cases signalling <;> exact absurd digit (by decide)
  | infinity negative => cases negative <;> exact absurd digit (by decide)
  | finite negative coefficient exponent => exact ⟨_, _, _, rfl⟩

/-- **No two decimal numbers have one text.** -/
theorem text_injective : Function.Injective text := by
  intro left right same
  cases begins : beginsWithDigit left.text.toList with
  | false =>
    have apart : ∀ left ∈ words, ∀ right ∈ words, left.text = right.text → left = right := by decide
    exact apart left (mem_words_of_beginsWithDigit begins) right
      (mem_words_of_beginsWithDigit (same ▸ begins)) same
  | true =>
    obtain ⟨negative, coefficient, exponent, rfl⟩ := exists_of_beginsWithDigit begins
    obtain ⟨otherNegative, otherCoefficient, otherExponent, rfl⟩ :=
      exists_of_beginsWithDigit (same ▸ begins)
    have chars := congrArg String.toList same
    rw [toList_text_finite, toList_text_finite] at chars
    obtain ⟨rfl, unsigned⟩ := signed_inj (head?_ne_of_isDigit (exists_head_unsignedText ..) (by decide))
      (head?_ne_of_isDigit (exists_head_unsignedText ..) (by decide)) chars
    have read := congrArg (readNumeral 'E') unsigned
    rw [readNumeral_unsignedText, readNumeral_unsignedText] at read
    obtain ⟨rfl, rfl⟩ := Decimal.mk.inj read
    rfl

end Decimal128

/-! ### Doubles -/

/-- A double is its sign and the rest of its bits. -/
theorem Binary64.eq_of_magnitude {number other : Binary64} (sign : number.isNegative = other.isNegative)
    (same : number.magnitude = other.magnitude) : number = other := by
  have both := decide_eq_decide.mp sign
  unfold magnitude signUnit at same
  unfold signUnit at both
  have bound := number.bits.toNat_lt
  have other_bound := other.bits.toNat_lt
  exact congrArg Binary64.mk (UInt64.toNat_inj.mp (by omega))

namespace Layout

/-- How numbers are read: a whole one may end with a point and a zero, and an exponent may have a sign. -/
structure Readable (layout : Layout) : Prop where
  ending : layout.wholeEnding = "" ∨ layout.wholeEnding = ".0"
  sign : layout.exponentSign = "" ∨ layout.exponentSign = "+"

theorem readable_of_mem {layout : Layout} (known : layout ∈ [plain, json, debug]) : layout.Readable := by
  simp only [List.mem_cons, List.not_mem_nil, or_false] at known
  obtain rfl | rfl | rfl := known
  · exact ⟨.inl rfl, .inl rfl⟩
  · exact ⟨.inr rfl, .inr rfl⟩
  · exact ⟨.inr rfl, .inl rfl⟩

section Absolute

variable {layout : Layout} {number other : Binary64}

theorem toList_scientific (exponentSign : String) (digits : List Char) (point : Int) :
    (scientific exponentSign digits point).toList =
      digits.take 1 ++ (if digits.length ≤ 1 then [] else '.' :: digits.drop 1) ++
        'e' :: ((if point - 1 < 0 then ['-'] else exponentSign.toList) ++
          Nat.toDigits 10 (point - 1).natAbs) := by
  simp only [scientific]
  rw [← toList_toString]
  split <;> split <;> simp

theorem value_readNumeral_placed (read : layout.Readable) (count : Nat) (exponent : Int) :
    (readNumeral 'e' (placed layout.wholeEnding (Nat.toDigits 10 count)
        ((Nat.toDigits 10 count).length + exponent)).toList).value = count * 10 ^ exponent := by
  have areDigits := areDigits_toDigits count
  have filled : 0 < (Nat.toDigits 10 count).length := List.length_pos_iff.mpr Nat.toDigits_ne_nil
  rcases Int.lt_or_le exponent 0 with negative | positive
  · rw [readNumeral_placed (by decide) (by decide) areDigits _ (by omega), Nat.ofDigitChars_ten_toDigits,
      Decimal.value]
    simp
  · obtain ⟨zeros, rfl⟩ := Int.eq_ofNat_of_zero_le positive
    have missing : ((Nat.toDigits 10 count).length + (zeros : Int)).toNat - (Nat.toDigits 10 count).length =
        zeros := by omega
    rcases read.ending with ending | ending
    · rw [ending, readNumeral_placed_whole (by decide) areDigits (by omega) (by omega), missing,
        Nat.ofDigitChars_ten_toDigits, Decimal.value]
      push_cast
      simp
    · rw [ending, readNumeral_placed_zero (by decide) (by decide) areDigits (by omega) (by omega), missing,
        Nat.ofDigitChars_ten_toDigits, Decimal.value]
      push_cast
      rw [pow_succ, zpow_neg_one, zpow_natCast]
      field_simp

theorem value_readNumeral_scientific (read : layout.Readable) (count : Nat) (exponent : Int) :
    (readNumeral 'e' (scientific layout.exponentSign (Nat.toDigits 10 count)
        ((Nat.toDigits 10 count).length + exponent)).toList).value = count * 10 ^ exponent := by
  have filled : 0 < (Nat.toDigits 10 count).length := List.length_pos_iff.mpr Nat.toDigits_ne_nil
  have sign : layout.exponentSign.toList = [] ∨ layout.exponentSign.toList = ['+'] :=
    read.sign.imp (fun sign => by rw [sign]; rfl) (fun sign => by rw [sign]; rfl)
  rw [toList_scientific, readNumeral_scientific (by decide) (by decide) (areDigits_toDigits count)
    Nat.toDigits_ne_nil, Nat.ofDigitChars_ten_toDigits, readInteger_signed _ _ sign, Decimal.value]
  congr 2
  show (Nat.toDigits 10 count).length + exponent - 1 - ((Nat.toDigits 10 count).length - 1 : Nat) = exponent
  omega

/-- **The text of a finite double is read as its shortest digits.** -/
theorem value_readNumeral_absolute (read : layout.Readable) (number : Binary64) :
    (readNumeral 'e' (layout.absolute number).toList).value =
      if number.magnitude = 0 then 0 else (decimal layout.tie number).value := by
  simp only [absolute, isZero, beq_iff_eq]
  split
  · rcases read.ending with ending | ending
    · rw [ending, show readNumeral 'e' ("0" ++ "").toList = ⟨0, 0⟩ by decide]
      simp [Decimal.value]
    · rw [ending, show readNumeral 'e' ("0" ++ ".0").toList = ⟨0, -1⟩ by decide]
      simp [Decimal.value]
  · simp only [toList_toString]
    split
    · exact value_readNumeral_placed read _ _
    · exact value_readNumeral_scientific read _ _

theorem exists_head_absolute (layout : Layout) (number : Binary64) :
    ∃ head ∈ (layout.absolute number).toList.head?, head.isDigit = true := by
  unfold absolute
  split
  · exact ⟨'0', by simp, by decide⟩
  · simp only [toList_toString]
    split
    · exact exists_head_placed (areDigits_toDigits _) Nat.toDigits_ne_nil _ _
    · rw [toList_scientific, List.append_assoc]
      exact exists_head_scientific (areDigits_toDigits _) Nat.toDigits_ne_nil _

/-- **Doubles with one text are equal** but for the sign. -/
theorem magnitude_eq_of_absolute (read : layout.Readable) (finite : number.magnitude < infinityMagnitude)
    (other_finite : other.magnitude < infinityMagnitude)
    (same : layout.absolute number = layout.absolute other) : number.magnitude = other.magnitude := by
  have value := congrArg (fun text : String => (readNumeral 'e' text.toList).value) same
  simp only [value_readNumeral_absolute read] at value
  have inside := contains_decimal layout.tie finite
  have also := contains_decimal layout.tie other_finite
  rcases Nat.eq_zero_or_pos number.magnitude with zero | present <;>
    rcases Nat.eq_zero_or_pos other.magnitude with nothing | existing
  · rw [zero, nothing]
  · rw [if_pos zero, if_neg existing.ne'] at value
    exact absurd value (pos_of_contains existing also).ne
  · rw [if_neg present.ne', if_pos nothing] at value
    exact absurd value (pos_of_contains present inside).ne'
  · rw [if_neg present.ne', if_neg existing.ne'] at value
    exact magnitude_eq_of_contains present existing inside (value ▸ also)

/-- The text of a number without its sign. -/
def unsigned (layout : Layout) (number : Binary64) : String :=
  if number.isInfinite then layout.infinity else layout.absolute number

theorem toList_text (numeric : number.isNaN = false) :
    (layout.text number).toList = signed number.isNegative (layout.unsigned number).toList := by
  rw [text, numeric, if_neg (by decide), String.toList_append]
  cases number.isNegative <;> rfl

/-- No number without its sign begins as a sign or as what stands for no number. -/
theorem head?_unsigned_debug (number : Binary64) {character : Char} (letter : character.isDigit = false)
    (other : character ≠ 'i') : (debug.unsigned number).toList.head? ≠ some character := by
  unfold unsigned
  split
  · exact fun same => other (Option.some.inj same).symm
  · exact head?_ne_of_isDigit (exists_head_absolute debug number) letter

theorem text_debug_ne_of_isNaN (nan : number.isNaN = true) (numeric : other.isNaN = false) :
    debug.text number ≠ debug.text other := by
  intro same
  have chars := congrArg String.toList same
  rw [toList_text numeric, text, nan, if_pos rfl] at chars
  cases sign : other.isNegative with
  | true =>
    rw [sign] at chars
    exact absurd (List.cons.inj chars).1 (by decide)
  | false =>
    rw [sign] at chars
    refine head?_unsigned_debug other (by decide : Char.isDigit 'N' = false) (by decide) ?_
    rw [show (debug.unsigned other).toList = _ from chars.symm]
    rfl

theorem magnitude_eq_of_unsigned (numeric : number.isNaN = false) (other_numeric : other.isNaN = false)
    (same : debug.unsigned number = debug.unsigned other) : number.magnitude = other.magnitude := by
  have apart (value : Binary64) : debug.absolute value ≠ "inf" := fun equal => by
    have begins := exists_head_absolute debug value
    rw [equal] at begins
    exact head?_ne_of_isDigit begins (by decide : Char.isDigit 'i' = false) (by decide)
  have below : number.magnitude ≤ infinityMagnitude := Nat.le_of_not_lt (of_decide_eq_false numeric)
  have other_below : other.magnitude ≤ infinityMagnitude :=
    Nat.le_of_not_lt (of_decide_eq_false other_numeric)
  simp only [unsigned, isInfinite, beq_iff_eq] at same
  by_cases first : number.magnitude = infinityMagnitude <;>
    by_cases second : other.magnitude = infinityMagnitude
  · rw [first, second]
  · rw [if_pos first, if_neg second] at same
    exact absurd same.symm (apart other)
  · rw [if_neg first, if_pos second] at same
    exact absurd same (apart number)
  · rw [if_neg first, if_neg second] at same
    exact magnitude_eq_of_absolute (readable_of_mem (by simp)) (by omega) (by omega) same

/-- **Doubles have one text in descriptions exactly if they print alike.** -/
theorem text_debug_eq_iff : debug.text number = debug.text other ↔ number.identical other = true := by
  rw [Binary64.identical, Bool.or_eq_true, Bool.and_eq_true, beq_iff_eq]
  constructor
  · intro same
    cases first : number.isNaN <;> cases second : other.isNaN
    · refine .inl ?_
      have chars := congrArg String.toList same
      rw [toList_text first, toList_text second] at chars
      obtain ⟨sign, unsigned⟩ := signed_inj (head?_unsigned_debug number (by decide) (by decide))
        (head?_unsigned_debug other (by decide) (by decide)) chars
      exact eq_of_magnitude sign (magnitude_eq_of_unsigned first second (String.toList_inj.mp unsigned))
    · exact absurd same.symm (text_debug_ne_of_isNaN second first)
    · exact absurd same (text_debug_ne_of_isNaN first second)
    · exact .inr ⟨rfl, rfl⟩
  · rintro (rfl | ⟨first, second⟩)
    · rfl
    · rw [text, text, first, second, if_pos rfl, if_pos rfl]

end Absolute

end Layout

end Polystore
