/-
**Texts that are told from what stands behind them.**

If two texts with something behind them are equal, then the texts are, as long as neither is the beginning
of the other one. Digits and names are told from what does not go on with a letter or a digit.

* `append_inj_of_stop`: a text is told from a character of a kind that it has none of;
* `joined_append_inj`: texts between commas are told from each other and from the mark that closes them.
-/

import Polystore.Text.Segments

namespace Polystore.Text

/-- A text is told from what stands behind it if that begins with a character of a kind that the text has
none of. -/
theorem append_inj_of_stop {kind : Char → Bool} {first second left right : List Char}
    (former : ∀ character ∈ first, kind character = false)
    (latter : ∀ character ∈ second, kind character = false)
    (ends : ∀ character ∈ left.head?, kind character = true)
    (stops : ∀ character ∈ right.head?, kind character = true)
    (same : first ++ left = second ++ right) : first = second ∧ left = right := by
  -- If one text ended before the other, the character behind it would be in the other one.
  induction first generalizing second with
  | nil =>
    cases second with
    | nil => exact ⟨rfl, same⟩
    | cons head rest =>
      rw [show left = head :: (rest ++ right) from same] at ends
      exact absurd (ends head rfl) (by simp [latter head List.mem_cons_self])
  | cons head rest hypothesis =>
    obtain ⟨first_other, others⟩ := List.forall_mem_cons.mp former
    cases second with
    | nil =>
      rw [show right = head :: (rest ++ left) from same.symm] at stops
      exact absurd (stops head rfl) (by simp [first_other])
    | cons other tail =>
      obtain ⟨rfl, behind⟩ := List.cons.inj same
      obtain ⟨rfl, after⟩ := hypothesis others (List.forall_mem_cons.mp latter).2 behind
      exact ⟨rfl, after⟩

/-- What goes on with no letter and no digit. -/
def Ends (behind : List Char) : Prop := ∀ character ∈ behind.head?, character.isAlphanum = false

theorem ends_cons {mark : Char} {behind : List Char} (other : mark.isAlphanum = false) :
    Ends (mark :: behind) := fun _ first => Option.some.inj first ▸ other

/-- Letters and digits are told from what goes on with none. -/
theorem alphanumeric_append_inj {first second left right : List Char}
    (former : ∀ character ∈ first, character.isAlphanum = true)
    (latter : ∀ character ∈ second, character.isAlphanum = true) (ends : Ends left) (stops : Ends right)
    (same : first ++ left = second ++ right) : first = second ∧ left = right := by
  have inside {text : List Char} (letters : ∀ character ∈ text, character.isAlphanum = true) :
      ∀ character ∈ text, (!character.isAlphanum) = false := fun character member => by
    rw [letters character member]
    rfl
  refine append_inj_of_stop (inside former) (inside latter) (fun character first => ?_)
    (fun character first => ?_) same
  · rw [ends character first]
    rfl
  · rw [stops character first]
    rfl

section Joined

variable {α β : Type} {text : α → String} {meaning : α → β} {items others : List α} {mark : Char}
  {left right : List Char}

/-- Whether the text of something tells what it means, wherever it ends. -/
def Tells (text : α → String) (meaning : α → β) (item : α) : Prop :=
  ∀ ⦃other : α⦄ ⦃left right : List Char⦄, Ends left → Ends right →
    (text item).toList ++ left = (text other).toList ++ right →
      meaning item = meaning other ∧ left = right

/-- Texts behind commas. -/
def commas (text : α → String) (items : List α) : List Char :=
  items.flatMap fun item => ',' :: ' ' :: (text item).toList

theorem toList_joined_cons (text : α → String) (item : α) (rest : List α) :
    (joined ", " ((item :: rest).map text)).toList = (text item).toList ++ commas text rest := by
  induction rest generalizing item with
  | nil => simp [joined, commas]
  | cons next rest hypothesis =>
    have written : joined ", " ((item :: next :: rest).map text) =
        text item ++ ", " ++ joined ", " ((next :: rest).map text) := rfl
    rw [written, String.toList_append, String.toList_append, hypothesis, List.append_assoc]
    rfl

/-- A comma ends a text, and so does the mark behind the last one. -/
theorem ends_commas (text : α → String) (items : List α) (other : mark.isAlphanum = false)
    (behind : List Char) : Ends (commas text items ++ mark :: behind) := by
  cases items with
  | nil => exact ends_cons other
  | cons item rest => exact ends_cons (by decide)

/-- Texts behind commas are told from the mark behind them. -/
theorem commas_append_inj (told : ∀ item ∈ items, Tells text meaning item)
    (other : mark.isAlphanum = false) (different : mark ≠ ',')
    (same : commas text items ++ mark :: left = commas text others ++ mark :: right) :
    items.map meaning = others.map meaning ∧ left = right := by
  induction items generalizing others with
  | nil =>
    cases others with
    | nil => exact ⟨rfl, (List.cons.inj same).2⟩
    | cons second rest => exact absurd (List.cons.inj same).1 different
  | cons first items hypothesis =>
    obtain ⟨first_told, told⟩ := List.forall_mem_cons.mp told
    cases others with
    | nil => exact absurd (List.cons.inj same).1.symm different
    | cons second others =>
      simp only [commas, List.flatMap_cons, List.cons_append, List.append_assoc, List.cons.injEq,
        true_and] at same
      obtain ⟨meant, behind⟩ := first_told (ends_commas text items other left)
        (ends_commas text others other right) same
      obtain ⟨rest, after⟩ := hypothesis told behind
      exact ⟨by rw [List.map_cons, List.map_cons, meant, rest], after⟩

/-- **Texts between commas are told from the mark behind them**, if none begins with that. -/
theorem joined_append_inj (told : ∀ item ∈ items, Tells text meaning item)
    (other : mark.isAlphanum = false) (different : mark ≠ ',')
    (begins : ∀ item behind rest, mark :: behind ≠ (text item).toList ++ rest)
    (same : (joined ", " (items.map text)).toList ++ mark :: left =
      (joined ", " (others.map text)).toList ++ mark :: right) :
    items.map meaning = others.map meaning ∧ left = right := by
  cases items with
  | nil =>
    cases others with
    | nil => exact ⟨rfl, (List.cons.inj same).2⟩
    | cons second others =>
      rw [toList_joined_cons, List.append_assoc] at same
      exact absurd same (begins second left _)
  | cons first items =>
    rw [toList_joined_cons, List.append_assoc] at same
    cases others with
    | nil => exact absurd same.symm (begins first right _)
    | cons second others =>
      rw [toList_joined_cons, List.append_assoc] at same
      obtain ⟨first_told, told⟩ := List.forall_mem_cons.mp told
      obtain ⟨meant, behind⟩ := first_told (ends_commas text items other left)
        (ends_commas text others other right) same
      obtain ⟨rest, after⟩ := commas_append_inj told other different behind
      exact ⟨by rw [List.map_cons, List.map_cons, meant, rest], after⟩

end Joined

end Polystore.Text
