/-
**The pieces of descriptions, told from what stands behind them.**

A text in brackets is told from it if the text is told from the bracket; so are named fields in braces, lists
between commas, and the subtypes and bytes of binary values.

* `bracketed_append_inj`, `bracketed_told_append_inj`: texts in brackets;
* `described_append_inj`: named fields;
* `enclosed_append_inj`: lists;
* `tells_subtypeText`, `tells_bytesText`: binary values.
-/

import Polystore.Proofs.Number.Numeral
import Polystore.Proofs.Text.Escaped
import Polystore.Proofs.Text.Plain
import Polystore.Value.Debug

namespace Polystore

open Text

variable {left right : List Char}

/-! ### Brackets and fields -/

theorem Text.toList_bracketed_append (text : String) (behind : List Char) :
    (bracketed text).toList ++ behind = '(' :: (text.toList ++ ')' :: behind) := by
  simp [bracketed]

/-- A plain text in brackets is told from what stands behind it. -/
theorem Text.bracketed_append_inj {text other : String} (former : isPlain text = true)
    (latter : isPlain other = true)
    (same : (bracketed text).toList ++ left = (bracketed other).toList ++ right) :
    text = other ∧ left = right := by
  rw [toList_bracketed_append, toList_bracketed_append] at same
  obtain ⟨texts, -, behind⟩ :=
    plain_append_inj former latter (by decide) (by decide) (List.cons.inj same).2
  exact ⟨texts, behind⟩

/-- A text in brackets is told from what stands behind it if it is told from them. -/
theorem Text.bracketed_told_append_inj {α β : Type} {text : α → String} {meaning : α → β}
    {item other : α} (told : Tells text meaning item)
    (same : (bracketed (text item)).toList ++ left = (bracketed (text other)).toList ++ right) :
    meaning item = meaning other ∧ left = right := by
  rw [toList_bracketed_append, toList_bracketed_append] at same
  obtain ⟨meant, behind⟩ := told (ends_cons (by decide)) (ends_cons (by decide)) (List.cons.inj same).2
  exact ⟨meant, (List.cons.inj behind).2⟩

theorem Text.tells_digits (number : Nat) : Tells toString id number := by
  intro other left right ends stops same
  have inside (number : Nat) : ∀ digit ∈ (toString number).toList, digit.isAlphanum = true := by
    rw [toList_toString]
    exact fun digit member => by
      rw [Char.isAlphanum, areDigits_toDigits number digit member, Bool.or_true]
  obtain ⟨digits, behind⟩ := alphanumeric_append_inj (inside number) (inside other) ends stops same
  rw [toList_toString, toList_toString] at digits
  rw [← Nat.ofDigitChars_ten_toDigits (n := number), digits, Nat.ofDigitChars_ten_toDigits]
  exact ⟨rfl, behind⟩

theorem Text.toList_described_append (name text otherName other : String) (behind : List Char) :
    (described name text otherName other).toList ++ behind =
      ' ' :: (("\x7b " ++ name ++ ": ").toList ++ (text.toList ++ ',' :: ((" " ++ otherName ++ ": ").toList ++
        (other.toList ++ ' ' :: ("\x7d".toList ++ behind))))) := by
  simp [described]

/-- Two named fields are told from what stands behind them if their texts are. -/
theorem Text.described_append_inj {α β γ δ : Type} {text : α → String} {meaning : α → β}
    {also : γ → String} {sense : γ → δ} {item otherItem : α} {entry otherEntry : γ} {name otherName : String}
    (told : Tells text meaning item) (and_told : Tells also sense entry)
    (same : (described name (text item) otherName (also entry)).toList ++ left =
      (described name (text otherItem) otherName (also otherEntry)).toList ++ right) :
    (meaning item = meaning otherItem ∧ sense entry = sense otherEntry) ∧ left = right := by
  rw [toList_described_append, toList_described_append] at same
  obtain ⟨meant, same⟩ := told (ends_cons (by decide)) (ends_cons (by decide))
    (List.append_cancel_left (List.cons.inj same).2)
  obtain ⟨sensed, same⟩ := and_told (ends_cons (by decide)) (ends_cons (by decide))
    (List.append_cancel_left (List.cons.inj same).2)
  exact ⟨⟨meant, sensed⟩, List.append_cancel_left (List.cons.inj same).2⟩

section Lists

variable {α β : Type} {text : α → String} {meaning : α → β} {items others : List α}
  {opening closing : Char}

/-- A list in brackets of some kind is told from what stands behind it. -/
theorem Text.enclosed_append_inj (told : ∀ item ∈ items, Tells text meaning item)
    (other : closing.isAlphanum = false) (different : closing ≠ ',')
    (begins : ∀ item behind rest, closing :: behind ≠ (text item).toList ++ rest)
    (same : (enclosed opening closing (items.map text)).toList ++ left =
      (enclosed opening closing (others.map text)).toList ++ right) :
    items.map meaning = others.map meaning ∧ left = right := by
  have written (texts : List String) (behind : List Char) :
      (enclosed opening closing texts).toList ++ behind =
        opening :: ((joined ", " texts).toList ++ closing :: behind) := by
    simp [enclosed]
  rw [written, written] at same
  exact joined_append_inj told other different begins (List.cons.inj same).2

theorem Text.bracketed_enclosed_append_inj (told : ∀ item ∈ items, Tells text meaning item)
    (other : closing.isAlphanum = false) (different : closing ≠ ',')
    (begins : ∀ item behind rest, closing :: behind ≠ (text item).toList ++ rest)
    (same : (bracketed (enclosed opening closing (items.map text))).toList ++ left =
      (bracketed (enclosed opening closing (others.map text))).toList ++ right) :
    items.map meaning = others.map meaning ∧ left = right := by
  rw [toList_bracketed_append, toList_bracketed_append] at same
  obtain ⟨meant, behind⟩ := enclosed_append_inj told other different begins (List.cons.inj same).2
  exact ⟨meant, (List.cons.inj behind).2⟩

end Lists

theorem Text.ends_bracketed (text : String) (behind : List Char) :
    Ends ((bracketed text).toList ++ behind) := by
  rw [toList_bracketed_append]
  exact ends_cons (by decide)

theorem Text.ends_described (name text otherName other : String) (behind : List Char) :
    Ends ((described name text otherName other).toList ++ behind) := by
  rw [toList_described_append]
  exact ends_cons (by decide)

/-! ### Binary values -/

namespace Binary

/-- The text of a subtype is a name, or a word with the number in brackets. -/
theorem subtypeText_cases (subtype : UInt8) :
    (∃ name, subtypeNames[subtype.toNat]? = some name ∧ subtypeText subtype = name) ∨
      subtypeText subtype = numberedWord subtype ++ bracketed (toString subtype.toNat) := by
  rw [subtypeText]
  cases subtypeNames[subtype.toNat]? with
  | some name => exact .inl ⟨name, rfl, rfl⟩
  | none => exact .inr rfl

theorem alphanumeric_name {name : String} (known : name ∈ subtypeNames) :
    ∀ character ∈ name.toList, character.isAlphanum = true := by
  have all : ∀ name ∈ subtypeNames, name.toList.all Char.isAlphanum = true := by decide +kernel
  exact List.all_eq_true.mp (all name known)

theorem alphanumeric_numberedWord (subtype : UInt8) :
    ∀ character ∈ (numberedWord subtype).toList, character.isAlphanum = true := by
  have known : numberedWord subtype ∈ ["Reserved", "UserDefined"] := by
    rw [numberedWord]
    split <;> decide
  have all : ∀ word ∈ ["Reserved", "UserDefined"], word.toList.all Char.isAlphanum = true := by
    decide +kernel
  exact List.all_eq_true.mp (all _ known)

theorem numberedWord_not_mem (subtype : UInt8) : numberedWord subtype ∉ subtypeNames := by
  rw [numberedWord]
  split <;> decide

/-- **Subtypes are told by their texts.** -/
theorem tells_subtypeText (subtype : UInt8) : Tells subtypeText id subtype := by
  intro other left right ends stops same
  rcases subtypeText_cases subtype with ⟨name, found, text⟩ | text <;>
    rcases subtypeText_cases other with ⟨second, known, also⟩ | also <;> rw [text, also] at same
  · obtain ⟨names, behind⟩ := alphanumeric_append_inj (alphanumeric_name (List.mem_of_getElem? found))
      (alphanumeric_name (List.mem_of_getElem? known)) ends stops same
    have place : subtype.toNat = other.toNat := by
      refine (List.getElem?_inj (List.getElem?_eq_some_iff.mp found).1 (by decide : subtypeNames.Nodup)).mp ?_
      rw [found, known, String.toList_inj.mp names]
    exact ⟨UInt8.toNat_inj.mp place, behind⟩
  · rw [String.toList_append, List.append_assoc] at same
    obtain ⟨names, -⟩ := alphanumeric_append_inj (alphanumeric_name (List.mem_of_getElem? found))
      (alphanumeric_numberedWord other) ends (ends_bracketed _ _) same
    exact absurd (String.toList_inj.mp names ▸ List.mem_of_getElem? found) (numberedWord_not_mem other)
  · rw [String.toList_append, List.append_assoc] at same
    obtain ⟨names, -⟩ := alphanumeric_append_inj (alphanumeric_numberedWord subtype)
      (alphanumeric_name (List.mem_of_getElem? known)) (ends_bracketed _ _) stops same
    exact absurd (String.toList_inj.mp names ▸ List.mem_of_getElem? known) (numberedWord_not_mem subtype)
  · rw [String.toList_append, String.toList_append, List.append_assoc, List.append_assoc] at same
    obtain ⟨-, bracketed⟩ := alphanumeric_append_inj (alphanumeric_numberedWord subtype)
      (alphanumeric_numberedWord other) (ends_bracketed _ _) (ends_bracketed _ _) same
    obtain ⟨numbers, behind⟩ := bracketed_told_append_inj (tells_digits subtype.toNat) bracketed
    exact ⟨UInt8.toNat_inj.mp numbers, behind⟩


theorem tells_byte (byte : UInt8) : Tells (fun byte : UInt8 => toString byte.toNat) id byte := by
  intro other left right ends stops same
  obtain ⟨numbers, behind⟩ := tells_digits byte.toNat ends stops same
  exact ⟨UInt8.toNat_inj.mp numbers, behind⟩

theorem mark_ne_digits (number : Nat) {mark : Char} (other : mark.isDigit = false)
    (behind rest : List Char) : mark :: behind ≠ (toString number).toList ++ rest := by
  rw [toList_toString]
  obtain ⟨head, tail, digits⟩ := List.exists_cons_of_ne_nil (Nat.toDigits_ne_nil (n := number) (b := 10))
  have digit := areDigits_toDigits number head (digits ▸ List.mem_cons_self)
  rw [digits]
  intro same
  rw [← (List.cons.inj same).1, other] at digit
  cases digit

/-- **So are bytes.** -/
theorem tells_bytesText (bytes : List UInt8) : Tells bytesText id bytes := by
  intro other left right ends stops same
  have told : bytes.map id = other.map id ∧ left = right :=
    enclosed_append_inj (fun byte _ => tells_byte byte) (by decide) (by decide)
      (fun byte => mark_ne_digits byte.toNat (by decide)) same
  rwa [List.map_id, List.map_id] at told

end Binary

end Polystore
