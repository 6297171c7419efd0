/-
**Texts without brackets, commas and quotes.**

Where such a text stands between characters that have a meaning of their own, it is told from them.

* `isPlain_text`, `isPlain_decimal`: numbers of every kind are plain;
* `plain_append_inj`: a plain text is told from what stands behind it.
-/

import Polystore.Number.Decimal128
import Polystore.Number.Layout
import Polystore.Proofs.Text.Told

namespace Polystore.Text

/-- Whether a character has a meaning of its own in a list. -/
def isSign (character : Char) : Bool := ['(', ')', ',', '\'', '"', '\x60'].contains character

/-- Whether a text has no such character. -/
def isPlain (text : String) : Bool := text.toList.all (!isSign ·)

theorem isPlain_append (first second : String) :
    isPlain (first ++ second) = (isPlain first && isPlain second) := by
  rw [isPlain, String.toList_append, List.all_append]
  rfl

theorem isPlain_ofList (text : List Char) : isPlain (String.ofList text) = text.all (!isSign ·) := by
  rw [isPlain, String.toList_ofList]

theorem isPlain_ofList_of_subset {some text : List Char} (plain : isPlain (String.ofList text) = true)
    (inside : some ⊆ text) : isPlain (String.ofList some) = true := by
  rw [isPlain_ofList, List.all_eq_true] at plain ⊢
  exact fun character member => plain character (inside member)

/-- **A plain text is told from what stands behind it.** -/
theorem plain_append_inj {first second : String} {mark other : Char} {left right : List Char}
    (former : isPlain first = true) (latter : isPlain second = true) (ends : isSign mark = true)
    (stops : isSign other = true)
    (same : first.toList ++ mark :: left = second.toList ++ other :: right) :
    first = second ∧ mark = other ∧ left = right := by
  have inside {text : String} (plain : isPlain text = true) :
      ∀ character ∈ text.toList, isSign character = false := fun character member => by
    simpa using List.all_eq_true.mp plain character member
  obtain ⟨texts, behind⟩ := append_inj_of_stop (inside former) (inside latter)
    (by simpa using ends) (by simpa using stops) same
  exact ⟨String.toList_inj.mp texts, List.cons.inj behind⟩

/-! ### Numbers -/

section Numbers

variable {character : Char} {digits : List Char} {wholeEnding exponentSign : String}

theorem isSign_of_isDigit (digit : character.isDigit = true) : isSign character = false := by
  rw [isSign, List.contains_eq_mem, decide_eq_false_iff_not]
  intro member
  simp only [List.mem_cons, List.not_mem_nil, or_false] at member
  rcases member with rfl | rfl | rfl | rfl | rfl | rfl <;> exact absurd digit (by decide)

theorem isPlain_digits (number : Nat) : isPlain (toString number) = true := by
  rw [Nat.toString_eq_ofList_toDigits, isPlain_ofList, List.all_eq_true]
  intro digit member
  rw [isSign_of_isDigit (Nat.isDigit_of_mem_toDigits (by decide) (by decide) member)]
  rfl

theorem isPlain_int (number : Int) : isPlain (toString number) = true := by
  cases number with
  | ofNat size => exact isPlain_digits size
  | negSucc size =>
    show isPlain ("-" ++ toString (size + 1)) = true
    rw [isPlain_append, isPlain_digits]
    rfl

theorem isPlain_zeros (count : Nat) : isPlain (Layout.zeros count) = true := by
  rw [Layout.zeros, isPlain_ofList, List.all_replicate]
  exact ite_self true

/-- Digits with a point among them are plain. -/
theorem isPlain_placed (ending : isPlain wholeEnding = true) (plain : isPlain (String.ofList digits) = true)
    (point : Int) : isPlain (Layout.placed wholeEnding digits point) = true := by
  have dot : isPlain "." = true := rfl
  have zero : isPlain "0." = true := rfl
  unfold Layout.placed
  split
  · rw [isPlain_append, isPlain_append, zero, isPlain_zeros, plain]
    rfl
  · simp only
    split
    · rw [isPlain_append, isPlain_append, plain, isPlain_zeros, ending]
      rfl
    · rw [isPlain_append, isPlain_append, isPlain_ofList_of_subset plain (List.take_subset _ _), dot,
        isPlain_ofList_of_subset plain (List.drop_subset _ _)]
      rfl

/-- The point behind the first digit, if there are more. -/
theorem isPlain_fraction (plain : isPlain (String.ofList digits) = true) :
    isPlain (if digits.length ≤ 1 then "" else "." ++ String.ofList (digits.drop 1)) = true := by
  split
  · rfl
  · rw [isPlain_append, isPlain_ofList_of_subset plain (List.drop_subset _ _)]
    rfl

theorem isPlain_scientific (sign : isPlain exponentSign = true)
    (plain : isPlain (String.ofList digits) = true) (point : Int) :
    isPlain (Layout.scientific exponentSign digits point) = true := by
  have signed : isPlain (if point - 1 < 0 then "-" else exponentSign) = true := by
    split
    · rfl
    · exact sign
  have letter : isPlain "e" = true := rfl
  simp only [Layout.scientific]
  rw [isPlain_append, isPlain_append, isPlain_append, isPlain_append, isPlain_digits, signed, letter,
    isPlain_fraction plain, isPlain_ofList_of_subset plain (List.take_subset _ _)]
  rfl

/-- A layout that writes numbers plainly. -/
structure IsPlainLayout (layout : Layout) : Prop where
  ending : isPlain layout.wholeEnding = true
  sign : isPlain layout.exponentSign = true
  notANumber : isPlain layout.notANumber = true
  infinity : isPlain layout.infinity = true

/-- **Doubles are plain.** -/
theorem isPlain_text {layout : Layout} (plain : IsPlainLayout layout) (number : Binary64) :
    isPlain (layout.text number) = true := by
  have zero : isPlain "0" = true := rfl
  have absolute : isPlain (layout.absolute number) = true := by
    unfold Layout.absolute
    split
    · rw [isPlain_append, zero, plain.ending]
      rfl
    · simp only
      have digits (count : Nat) : isPlain (String.ofList (toString count).toList) = true := by
        rw [String.ofList_toList]
        exact isPlain_digits count
      split
      · exact isPlain_placed plain.ending (digits _) _
      · exact isPlain_scientific plain.sign (digits _) _
  unfold Layout.text
  split
  · exact plain.notANumber
  · have sign : isPlain (if number.isNegative then "-" else "") = true := by
      split <;> rfl
    have unsigned :
        isPlain (if number.isInfinite then layout.infinity else layout.absolute number) = true := by
      split
      · exact plain.infinity
      · exact absolute
    rw [isPlain_append, sign, unsigned]
    rfl

theorem isPlain_unsignedText (coefficient : Nat) (exponent : Int) :
    isPlain (Decimal128.unsignedText coefficient exponent) = true := by
  have plain : isPlain (String.ofList (toString coefficient).toList) = true := by
    rw [String.ofList_toList]
    exact isPlain_digits coefficient
  have dot : isPlain "." = true := rfl
  have zero : isPlain "0." = true := rfl
  have letter : isPlain "E" = true := rfl
  have plus (adjusted : Int) : isPlain (if 0 < adjusted then "+" else "") = true := by
    split <;> rfl
  unfold Decimal128.unsignedText
  generalize (toString coefficient).toList = digits at plain ⊢
  simp only
  split
  · split
    · exact plain
    · split
      · have filled (count : Nat) :
            isPlain (String.ofList (List.replicate count '0' ++ digits)) = true := by
          rw [String.ofList_append, isPlain_append, plain, Bool.and_true]
          exact isPlain_zeros count
        rw [isPlain_append, zero, filled]
        rfl
      · rw [isPlain_append, isPlain_append, isPlain_ofList_of_subset plain (List.take_subset _ _), dot,
          isPlain_ofList_of_subset plain (List.drop_subset _ _)]
        rfl
  · rw [isPlain_append, isPlain_append, isPlain_append, isPlain_append, isPlain_int, plus, letter,
      isPlain_fraction plain, isPlain_ofList_of_subset plain (List.take_subset _ _)]
    rfl

/-- **Decimal numbers are plain.** -/
theorem isPlain_decimal (number : Decimal128) : isPlain number.text = true := by
  cases number with
  | notANumber signalling => cases signalling <;> rfl
  | infinity negative => cases negative <;> rfl
  | finite negative coefficient exponent =>
    rw [Decimal128.text, isPlain_append, isPlain_unsignedText]
    cases negative <;> rfl

end Numbers

end Polystore.Text
