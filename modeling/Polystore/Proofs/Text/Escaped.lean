/-
**Texts in quotes, told from what stands behind them.**

No character begins as the quote that closes the text, and none is written as the beginning of another one:
what a backslash begins is told by the character behind it, and a code point by the brace that closes it.

* `escaped_append_inj`: a character is told from what stands behind it;
* `quoted_append_inj`: so is a text in quotes.
-/

import Polystore.Proofs.Text.Told
import Polystore.Text.Escaped

namespace Polystore

/-! ### Code points -/

/-- **Hexadecimal digits are read back.** -/
theorem Hex.number?_toDigits (number : Nat) : number? (Nat.toDigits 16 number) = some number := by
  have last : ∀ digit < 16, value? (Nat.digitChar digit) = some digit := by decide
  induction number using Nat.strongRecOn with
  | ind number hypothesis =>
    rcases Nat.lt_or_ge number 16 with small | large
    · rw [Nat.toDigits_of_lt_base small, number?, numberFrom?, last number small]
      simp [numberFrom?]
    · rw [Nat.toDigits_of_base_le (by decide) large, number?, numberFrom?_append]
      rw [show numberFrom? 0 (Nat.toDigits 16 (number / 16)) = some (number / 16) from
        hypothesis (number / 16) (Nat.div_lt_self (by omega) (by decide)), Option.bind_some, numberFrom?,
        last _ (Nat.mod_lt _ (by decide))]
      simp only [numberFrom?]
      rw [Nat.div_add_mod]

/-- What is read as a number consists of digits. -/
theorem Hex.isSome_value?_of_numberFrom? {read : Nat} {text : List Char}
    (known : (numberFrom? read text).isSome = true) :
    ∀ character ∈ text, (value? character).isNone = false := by
  induction text generalizing read with
  | nil => exact nofun
  | cons head rest hypothesis =>
    rw [numberFrom?] at known
    split at known
    · rename_i found
      exact List.forall_mem_cons.mpr ⟨by rw [found]; rfl, hypothesis known⟩
    · cases known

namespace Text

variable {first second : Char} {left right : List Char}

/-- A code point is told from what stands behind it. -/
theorem codeEscape_append_inj (same : codeEscape first ++ left = codeEscape second ++ right) :
    first = second ∧ left = right := by
  have digits (number : Nat) :
      ∀ character ∈ Nat.toDigits 16 number, (Hex.value? character).isNone = false :=
    Hex.isSome_value?_of_numberFrom? (Option.isSome_of_eq_some (Hex.number?_toDigits number))
  have written (character : Char) (behind : List Char) : codeEscape character ++ behind =
      '\\' :: 'u' :: '\x7b' :: (Nat.toDigits 16 character.toNat ++ '\x7d' :: behind) := by
    simp [codeEscape]
  rw [written, written] at same
  simp only [List.cons.injEq, true_and] at same
  obtain ⟨points, behind⟩ := append_inj_of_stop (digits first.toNat) (digits second.toNat)
    (by simp; decide) (by simp; decide) same
  have numbers := congrArg Hex.number? points
  rw [Hex.number?_toDigits, Hex.number?_toDigits, Option.some.injEq] at numbers
  exact ⟨Char.ext (UInt32.toNat_inj.mp numbers), (List.cons.inj behind).2⟩

/-! ### Characters -/

/-- The character that a letter behind a backslash stands for. -/
def escapedBy : Char → Char
  | '0' => '\x00'
  | 't' => '\t'
  | 'n' => '\n'
  | 'r' => '\r'
  | other => other

/-- How a character is written: with a backslash and one character that is no `u`, as itself, or as its code
point. -/
inductive Escapes (character : Char) : List Char → Prop where
  | short {letter : Char} (other : letter ≠ 'u') (read : escapedBy letter = character) :
    Escapes character ['\\', letter]
  | plain (backslash : character ≠ '\\') (quote : character ≠ '"') : Escapes character [character]
  | code : Escapes character (codeEscape character)

theorem escapes_escapedCharacter (character : Char) : Escapes character (escapedCharacter character) := by
  unfold escapedCharacter
  split
  · exact .short (by decide) rfl
  · exact .short (by decide) rfl
  · exact .short (by decide) rfl
  · exact .short (by decide) rfl
  · exact .short (by decide) rfl
  · exact .short (by decide) rfl
  · rename_i quote backslash
    split
    · exact .plain backslash quote
    · exact .code

/-- **A character is told from what stands behind it.** -/
theorem escaped_append_inj (same : escapedCharacter first ++ left = escapedCharacter second ++ right) :
    first = second ∧ left = right := by
  have former := escapes_escapedCharacter first
  have latter := escapes_escapedCharacter second
  generalize escapedCharacter first = written at former same
  generalize escapedCharacter second = others at latter same
  cases former with
  | short other read =>
    cases latter with
    | short _ also =>
      obtain ⟨rfl, behind⟩ := List.cons.inj (List.cons.inj same).2
      exact ⟨read.symm.trans also, behind⟩
    | plain backslash => exact absurd (List.cons.inj same).1.symm backslash
    | code => exact absurd (List.cons.inj (List.cons.inj same).2).1 other
  | plain backslash =>
    cases latter with
    | short => exact absurd (List.cons.inj same).1 backslash
    | plain => exact List.cons.inj same
    | code => exact absurd (List.cons.inj same).1 backslash
  | code =>
    cases latter with
    | short other => exact absurd (List.cons.inj (List.cons.inj same).2).1.symm other
    | plain backslash => exact absurd (List.cons.inj same).1.symm backslash
    | code => exact codeEscape_append_inj same

theorem quote_ne_escaped (behind : List Char) : '"' :: left ≠ escapedCharacter first ++ behind := by
  have former := escapes_escapedCharacter first
  generalize escapedCharacter first = written at former
  intro same
  cases former with
  | short => exact absurd (List.cons.inj same).1 (by decide)
  | plain _ quote => exact quote (List.cons.inj same).1.symm
  | code => exact absurd (List.cons.inj same).1 (by decide)

/-! ### Texts -/

theorem toList_quoted_append (text : String) (behind : List Char) :
    (quoted text).toList ++ behind = '"' :: (text.toList.flatMap escapedCharacter ++ '"' :: behind) := by
  simp [quoted]

/-- **A text in quotes is told from what stands behind it.** -/
theorem quoted_append_inj {text other : String}
    (same : (quoted text).toList ++ left = (quoted other).toList ++ right) :
    text = other ∧ left = right := by
  rw [toList_quoted_append, toList_quoted_append] at same
  suffices chars : text.toList = other.toList ∧ left = right from chars.imp_left String.toList_inj.mp
  replace same := (List.cons.inj same).2
  generalize text.toList = characters at same ⊢
  generalize other.toList = others at same ⊢
  induction characters generalizing others with
  | nil =>
    cases others with
    | nil => exact ⟨rfl, (List.cons.inj same).2⟩
    | cons head rest =>
      rw [List.flatMap_cons, List.append_assoc] at same
      exact absurd same (quote_ne_escaped _)
  | cons head rest hypothesis =>
    rw [List.flatMap_cons, List.append_assoc] at same
    cases others with
    | nil => exact absurd same.symm (quote_ne_escaped _)
    | cons second tail =>
      rw [List.flatMap_cons, List.append_assoc] at same
      obtain ⟨rfl, behind⟩ := escaped_append_inj same
      obtain ⟨rfl, after⟩ := hypothesis tail behind
      exact ⟨rfl, after⟩

theorem tells_quoted (text : String) : Tells quoted id text :=
  fun _ _ _ _ _ same => quoted_append_inj same

end Text

end Polystore
