/-
**The texts that follow a pattern.**

`Pattern.follows` reads a pattern sign by sign: `%` stands for any run of characters without a line
feed, `_` for one such character, and every other sign for itself up to case. It knows nothing of
regular expressions.

* `mem_closure_iff`: what a repetition of one-character steps reaches is what a run of characters
  leads to;
* `isMatch_expression`: the expression of a pattern matches exactly the texts that follow the pattern.
-/

import Polystore.Proofs.Pattern.Expression

namespace Polystore.Pattern

/-- Whether a run of characters of one line can be left out so that the rest is as wanted. -/
def afterRun (wanted : List Char → Bool) : List Char → Bool
  | [] => wanted []
  | head :: rest => wanted (head :: rest) || (head != '\n' && afterRun wanted rest)

/-- Whether a sign other than `%` stands for a character. -/
def stands (sign character : Char) : Bool :=
  if sign = '_' then character != '\n' else Text.sameButCase sign character

/-- **Whether a text follows a pattern.** -/
def follows : List Char → List Char → Bool
  | [], text => text.isEmpty
  | sign :: pattern, text =>
    if sign = '%' then afterRun (follows pattern) text
    else
      match text with
      | [] => false
      | head :: rest => stands sign head && follows pattern rest

theorem follows_run (pattern text : List Char) :
    follows ('%' :: pattern) text = afterRun (follows pattern) text := by
  cases text <;> rfl

theorem follows_sign {sign : Char} (single : sign ≠ '%') (pattern : List Char) (head : Char)
    (rest : List Char) :
    follows (sign :: pattern) (head :: rest) = (stands sign head && follows pattern rest) := by
  simp [follows, single]

theorem follows_nothing {sign : Char} (single : sign ≠ '%') (pattern : List Char) :
    follows (sign :: pattern) [] = false := by
  simp [follows, single]

section Ends

open Regex

/-- Where the expression of a sign other than `%` ends. -/
theorem ends_sign {sign : Char} (single : sign ≠ '%') (before : Option Char) (text : List Char) :
    (signExpression sign).ends ⟨before, text⟩ =
      match text with
      | [] => []
      | head :: rest => if stands sign head then [⟨some head, rest⟩] else [] := by
  unfold signExpression stands
  rw [if_neg single]
  split_ifs with blank
  · cases text with
    | nil => rfl
    | cons head rest =>
      simp only [ends, ofLine, CharSet.holds, Bool.false_eq_true, if_false]
      rw [bne_comm]
      rfl
  · cases text with
    | nil => rfl
    | cons head rest => simp only [ends, CharSet.holds, if_true]

/-- The places of a sequence, through the places of its first part. -/
theorem mem_ends_sequenceAll (first : Regex) (rest : List Regex) (start finish : Cursor) :
    finish ∈ (sequenceAll (first :: rest)).ends start ↔
      ∃ middle ∈ first.ends start, finish ∈ (sequenceAll rest).ends middle := by
  cases rest with
  | nil => simp [sequenceAll, ends]
  | cons second rest => simp [sequenceAll, ends, List.mem_eraseDups]

/-! ### Runs of characters -/

/-- One step over a character of the line. -/
abbrev lineStep : Cursor → List Cursor := (Regex.character false ofLine).ends

/-- The second place lies behind at most `count` characters of the line after the first. -/
inductive Runs : Nat → Cursor → Cursor → Prop
  | stay (count : Nat) (place : Cursor) : Runs count place place
  | step {count : Nat} (before : Option Char) {head : Char} {rest : List Char} {finish : Cursor} :
      head ≠ '\n' → Runs count ⟨some head, rest⟩ finish → Runs (count + 1) ⟨before, head :: rest⟩ finish

theorem mem_lineStep (start middle : Cursor) :
    middle ∈ lineStep start ↔
      ∃ head rest, start.rest = head :: rest ∧ head ≠ '\n' ∧ middle = ⟨some head, rest⟩ := by
  obtain ⟨before, text⟩ := start
  cases text with
  | nil => simp [ends]
  | cons head rest =>
    by_cases feed : head = '\n'
    · simp [ends, ofLine, CharSet.holds, feed]
    · simp [ends, ofLine, CharSet.holds, feed, Ne.symm feed]

/-- **Repeated steps reach what runs of characters lead to.** -/
theorem mem_closure_iff (fuel : Nat) (places : List Cursor) (finish : Cursor) :
    finish ∈ Regex.closure lineStep fuel places ↔ ∃ start ∈ places, Runs fuel start finish := by
  induction fuel generalizing places with
  | zero =>
    have still : ∀ start, Runs 0 start finish ↔ start = finish := by
      intro start
      constructor
      · intro runs
        cases runs
        rfl
      · rintro rfl
        exact .stay 0 start
    simp [Regex.closure, still]
  | succ fuel hypothesis =>
    cases places with
    | nil => simp [Regex.closure]
    | cons first others =>
      show finish ∈ (first :: others) ++ Regex.closure lineStep fuel _ ↔ _
      rw [List.mem_append, hypothesis]
      constructor
      · rintro (member | ⟨middle, member, runs⟩)
        · exact ⟨finish, member, .stay _ _⟩
        · rw [List.mem_eraseDups, List.mem_flatMap] at member
          obtain ⟨start, inside, step⟩ := member
          obtain ⟨head, rest, text, line, rfl⟩ := (mem_lineStep _ _).mp (List.mem_of_mem_filter step)
          obtain ⟨before, _⟩ := start
          subst text
          exact ⟨_, inside, .step before line runs⟩
      · rintro ⟨start, inside, runs⟩
        cases runs with
        | stay => exact Or.inl inside
        | step before line runs =>
          refine Or.inr ⟨_, ?_, runs⟩
          rw [List.mem_eraseDups, List.mem_flatMap]
          refine ⟨_, inside, List.mem_filter.mpr ⟨?_, by simp⟩⟩
          exact (mem_lineStep _ _).mpr ⟨_, _, rfl, line, rfl⟩
  
/-- A run within the text that leads to a wanted rest, from the places it may lead to. -/
theorem afterRun_iff (wanted : List Char → Bool) (before : Option Char) (text : List Char)
    {fuel : Nat} (enough : text.length ≤ fuel) :
    afterRun wanted text = true ↔
      ∃ finish : Cursor, Runs fuel ⟨before, text⟩ finish ∧ wanted finish.rest = true := by
  induction text generalizing before fuel with
  | nil =>
    constructor
    · exact fun holds => ⟨_, .stay _ _, holds⟩
    · rintro ⟨finish, runs, holds⟩
      cases runs
      exact holds
  | cons head rest hypothesis =>
    obtain ⟨fuel, rfl⟩ : ∃ less, fuel = less + 1 := ⟨fuel - 1, by simp at enough; omega⟩
    have shorter := hypothesis (some head) (Nat.le_of_succ_le_succ enough)
    rw [afterRun, Bool.or_eq_true, Bool.and_eq_true, bne_iff_ne, shorter]
    constructor
    · rintro (holds | ⟨line, finish, runs, holds⟩)
      · exact ⟨_, .stay _ _, holds⟩
      · exact ⟨finish, .step before line runs, holds⟩
    · rintro ⟨finish, runs, holds⟩
      cases runs with
      | stay => exact Or.inl holds
      | step _ line runs => exact Or.inr ⟨line, finish, runs, holds⟩

/-- A run of any length reaches every place up to the end of the line. -/
theorem mem_ends_run (start finish : Cursor) :
    finish ∈ (signExpression '%').ends start ↔ Runs start.rest.length start finish := by
  have folded : (signExpression '%').ends start =
      (Regex.closure lineStep start.rest.length [start]).eraseDups := rfl
  rw [folded, List.mem_eraseDups, mem_closure_iff]
  simp

/-! ### The whole pattern -/

/-- The rest of a pattern matches from a place exactly if the rest of the text follows it. -/
theorem ends_pattern_iff (pattern : List Char) (start : Cursor) :
    (∃ finish, finish ∈ (sequenceAll (pattern.map signExpression ++ [.anchor .textEnd])).ends start) ↔
      follows pattern start.rest = true := by
  induction pattern generalizing start with
  | nil =>
    obtain ⟨before, text⟩ := start
    cases text <;> simp [sequenceAll, ends, Cursor.satisfies, follows]
  | cons sign pattern hypothesis =>
    have split : (∃ finish, finish ∈ (sequenceAll
          ((sign :: pattern).map signExpression ++ [.anchor .textEnd])).ends start) ↔
        ∃ middle ∈ (signExpression sign).ends start, follows pattern middle.rest = true := by
      simp only [List.map_cons, List.cons_append, mem_ends_sequenceAll, ← hypothesis]
      constructor
      · rintro ⟨finish, middle, first, rest⟩
        exact ⟨middle, first, finish, rest⟩
      · rintro ⟨middle, first, finish, rest⟩
        exact ⟨finish, middle, first, rest⟩
    rw [split]
    obtain ⟨before, text⟩ := start
    by_cases run : sign = '%'
    · subst run
      rw [follows_run, afterRun_iff _ before text (Nat.le_refl _)]
      simp only [mem_ends_run]
    · rw [ends_sign run]
      cases text with
      | nil => simp [follows_nothing run]
      | cons head rest =>
        rw [follows_sign run]
        by_cases fits : stands sign head = true <;> simp [fits]

/-- Only the first place of a text has nothing before it. -/
theorem before_of_mem_onwards {before : Option Char} {text : List Char} {place : Cursor}
    (member : place ∈ Cursor.onwards before text) (inside : before.isSome = true) :
    place.before.isSome = true := by
  induction text generalizing before with
  | nil =>
    obtain rfl := List.mem_singleton.mp member
    exact inside
  | cons head rest hypothesis =>
    rcases List.mem_cons.mp member with rfl | member
    · exact inside
    · exact hypothesis member rfl

/-- The first place of a text is the one with nothing before it. -/
theorem mem_all_and_first_iff {text : List Char} {place : Cursor} :
    place ∈ Cursor.all text ∧ place.before.isNone = true ↔ place = ⟨none, text⟩ := by
  constructor
  · rintro ⟨member, first⟩
    cases text with
    | nil => exact List.mem_singleton.mp member
    | cons head rest =>
      rcases List.mem_cons.mp member with rfl | member
      · rfl
      · have inside := before_of_mem_onwards member rfl
        rw [Option.isNone_iff_eq_none.mp first] at inside
        cases inside
  · rintro rfl
    exact ⟨by cases text <;> exact List.mem_cons_self, rfl⟩

/-- **The expression of a pattern matches exactly the texts that follow it.** -/
theorem isMatch_expression (pattern : List Char) (text : String) :
    (expression pattern).isMatch text = follows pattern text.toList := by
  have fromStart : ∀ place : Cursor, (∃ finish, finish ∈ (expression pattern).ends place) ↔
      place.before.isNone = true ∧ follows pattern place.rest = true := by
    intro place
    rw [← ends_pattern_iff]
    simp only [expression, mem_ends_sequenceAll]
    by_cases first : place.before.isNone = true <;> simp [ends, Cursor.satisfies, first]
  rw [Bool.eq_iff_iff, isMatch, List.any_eq_true]
  simp only [Bool.not_eq_true', List.isEmpty_eq_false_iff_exists_mem, fromStart]
  constructor
  · rintro ⟨place, member, first, holds⟩
    obtain rfl := mem_all_and_first_iff.mp ⟨member, first⟩
    exact holds
  · intro holds
    exact ⟨_, (mem_all_and_first_iff.mpr rfl).1, rfl, holds⟩

end Ends

end Polystore.Pattern
