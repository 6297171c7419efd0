/-
**The regular expression of a pattern.**

`Pattern.expression` is the expression that a pattern is to become: its signs one after the other
between the two ends of the text. The text that `Native.likePattern` writes for it is always well
formed and reads back as that expression.

* `scan_likePattern`: the tokens of the written expression, whatever the pattern;
* `ofText?_likePattern`: the written expression is accepted and is `Pattern.expression`.
-/

import Mathlib.Data.List.Basic
import Polystore.Native.Pattern
import Polystore.Regex.Reader

namespace Polystore.Pattern

/-- Any character but a line feed. -/
def ofLine : CharSet := .complement (.single '\n')

/-- The tokens of one sign of a pattern. -/
def signTokens (sign : Char) : List RegexToken :=
  if sign = '%' then [.dot, .count 0 none] else if sign = '_' then [.dot] else [.oneOf (.single sign)]

/-- The expression of one sign of a pattern. -/
def signExpression (sign : Char) : Regex :=
  if sign = '%' then .repeated (.character false ofLine) 0 none
  else if sign = '_' then .character false ofLine
  else .character true (.single sign)

/-- The expression of the texts that follow a pattern from end to end. -/
def expression (pattern : List Char) : Regex :=
  Regex.sequenceAll (.anchor .textStart :: (pattern.map signExpression ++ [.anchor .textEnd]))

/-! ### Reading the written expression -/

section Scan

open Native RegexToken

/-- What a pattern is written as, up to the end of the text. -/
abbrev written (pattern : List Char) : List Char := pattern.flatMap patternPiece ++ ['$']

/-- A character without a meaning of its own is read as itself. -/
theorem first?_plain {sign : Char} (plain : sign ∉ metaCharacters) (rest : List Char) :
    first? sign rest = some (.oneOf (.single sign), rest) := by
  unfold first?
  split <;> first | rfl | exact absurd (by decide) plain

/-- A character with a meaning of its own is read as itself behind a backslash. -/
theorem first?_escaped {sign : Char} (special : sign ∈ metaCharacters) (rest : List Char) :
    first? '\\' (sign :: rest) = some (.oneOf (.single sign), rest) := by
  simp only [metaCharacters, List.mem_cons, List.not_mem_nil, or_false] at special
  rcases special with rfl | rfl | rfl | rfl | rfl | rfl | rfl | rfl | rfl | rfl | rfl | rfl | rfl |
    rfl | rfl | rfl | rfl | rfl <;> rfl

/-- No written expression goes on with a question mark, which would change a repetition. -/
theorem dropLazy_written (pattern : List Char) : dropLazy (written pattern) = written pattern := by
  have head : ∀ rest, written pattern ≠ '?' :: rest := by
    intro rest equal
    cases pattern with
    | nil => simp [written] at equal
    | cons sign pattern =>
      simp only [written, List.flatMap_cons, patternPiece, escapedCharacter] at equal
      split_ifs at equal with run single special
      · simp at equal
      · simp at equal
      · simp at equal
      · simp only [List.cons_append, List.nil_append, List.cons.injEq] at equal
        exact special (by rw [equal.1]; decide)
  unfold dropLazy
  split
  · rename_i rest equal
    exact absurd equal (head rest)
  · rfl

/-- One token and the tokens behind it. -/
theorem scanFrom_cons {head : Char} {rest after : List Char} {token : RegexToken}
    {others : List RegexToken} {fuel : Nat} (read : first? head rest = some (token, after))
    (tokens : scanFrom fuel after = some others) :
    scanFrom (fuel + 1) (head :: rest) = some (token :: others) := by
  simp [scanFrom, read, tokens]

/-- The tokens of a written expression from some sign on. -/
theorem scanFrom_written (pattern : List Char) {fuel : Nat} (enough : (written pattern).length ≤ fuel) :
    scanFrom fuel (written pattern) = some (pattern.flatMap signTokens ++ [.dollar]) := by
  induction pattern generalizing fuel with
  | nil =>
    obtain ⟨fuel, rfl⟩ : ∃ less, fuel = less + 1 := ⟨fuel - 1, by simp at enough; omega⟩
    exact scanFrom_cons rfl (by simp [scanFrom])
  | cons sign pattern hypothesis =>
    simp only [written, List.flatMap_cons, patternPiece, signTokens, List.append_assoc] at enough ⊢
    split_ifs at enough ⊢ with run single
    · obtain ⟨fuel, rfl⟩ : ∃ less, fuel = less + 2 := ⟨fuel - 2, by simp at enough; omega⟩
      have others := @hypothesis fuel (by simp at enough ⊢; omega)
      rw [← dropLazy_written] at others
      exact scanFrom_cons rfl (scanFrom_cons rfl others)
    · obtain ⟨fuel, rfl⟩ : ∃ less, fuel = less + 1 := ⟨fuel - 1, by simp at enough; omega⟩
      exact scanFrom_cons rfl (hypothesis (by simp at enough ⊢; omega))
    · unfold escapedCharacter at enough ⊢
      split_ifs at enough ⊢ with special
      · obtain ⟨fuel, rfl⟩ : ∃ less, fuel = less + 1 := ⟨fuel - 1, by simp at enough; omega⟩
        exact scanFrom_cons (first?_escaped (by simpa using special) _)
          (hypothesis (by simp at enough ⊢; omega))
      · obtain ⟨fuel, rfl⟩ : ∃ less, fuel = less + 1 := ⟨fuel - 1, by simp at enough; omega⟩
        exact scanFrom_cons (first?_plain (by simpa using special) _)
          (hypothesis (by simp at enough ⊢; omega))

/-- **The tokens of the written expression**, whatever the pattern. -/
theorem scan_likePattern (pattern : String) :
    scan (likePattern pattern).toList =
      some (.caret :: (pattern.toList.flatMap signTokens ++ [.dollar])) := by
  rw [likePattern, String.toList_ofList, List.cons_append, scan, List.length_cons]
  exact scanFrom_cons rfl (scanFrom_written _ (Nat.le_refl _))

end Scan

/-! ### The expression that was read -/

section Read

open Regex

/-- The switches under which patterns are read: letters match whatever their case. -/
abbrev switches : Switches := .ofLetters "i"

/-- The tokens of signs are read as one item each, behind the items before them. -/
theorem readTokens_signs (pattern : List Char) (rest : List RegexToken) (group : Open) :
    readTokens (pattern.flatMap signTokens ++ rest) switches group [] =
      readTokens rest switches
        { group with items := (pattern.map (some ∘ signExpression)).reverse ++ group.items } [] := by
  induction pattern generalizing group with
  | nil => rfl
  | cons sign pattern hypothesis =>
    have first : readTokens (signTokens sign ++ (pattern.flatMap signTokens ++ rest)) switches group [] =
        readTokens (pattern.flatMap signTokens ++ rest) switches
          (group.push (some (signExpression sign))) [] := by
      unfold signTokens signExpression
      split_ifs <;> rfl
    rw [List.flatMap_cons, List.append_assoc, first, hypothesis]
    simp [Open.push]

/-- **The written expression is accepted**, and it is the expression of the pattern. -/
theorem ofText?_likePattern (pattern : String) :
    ofText? switches (Native.likePattern pattern) = some (expression pattern.toList) := by
  have tokens := scan_likePattern pattern
  have first : readTokens (.caret :: (pattern.toList.flatMap signTokens ++ [.dollar])) switches
      ⟨[], [], switches⟩ [] =
      readTokens (pattern.toList.flatMap signTokens ++ [.dollar]) switches
        ⟨[], [some (.anchor .textStart)], switches⟩ [] := rfl
  rw [ofText?, tokens, Option.bind_eq_bind, Option.bind_some, first, readTokens_signs]
  simp only [readTokens, simple?, Open.push, Open.close, Open.sequence, expression]
  simp [switches, Switches.ofLetters, choiceAll, List.filterMap_append, List.filterMap_map,
    Function.comp_def]

end Read

end Polystore.Pattern
