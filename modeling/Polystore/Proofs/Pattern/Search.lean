/-
**The patterns of searches.**

A partial search asks for a text that contains a needle, a fuzzy one for a text that has the characters
of the needle in order. Both put the needle into a pattern as it is, so a wildcard in it keeps its
meaning.

* `like_append_iff`: a pattern of two parts matches a text of two parts;
* `like_containsPattern_iff`, `like_subsequencePattern_iff`: the texts that the two searches find;
* `searches_iff`: these are the texts with the needle exactly if there is no wildcard in it;
* `searches_find_discount`: a text that both searches find without it.
-/

import Polystore.Proofs.Pattern.Like

namespace Polystore.Pattern

/-- Whether two texts are the same character by character, ignoring case. -/
abbrev Spells : List Char → List Char → Prop :=
  List.Forall₂ fun sign head => Text.sameButCase sign head = true

/-- **Whether a text contains a needle**, ignoring case. -/
def Contains (needle text : List Char) : Prop := ∃ piece, piece <:+: text ∧ Spells needle piece

/-- **Whether a text has the characters of a needle in order**, ignoring case. -/
def ContainsInOrder (needle text : List Char) : Prop :=
  ∃ piece, piece.Sublist text ∧ Spells needle piece

/-- Whether no sign of a needle is a wildcard. -/
def IsLiteral (needle : List Char) : Prop := '%' ∉ needle ∧ '_' ∉ needle

/-- The signs of a needle that stand for one character each. -/
def narrow (needle : List Char) : List Char := needle.filter (· ≠ '%')

theorem narrow_run (needle : List Char) : narrow ('%' :: needle) = narrow needle := rfl

theorem narrow_sign {sign : Char} (single : sign ≠ '%') (needle : List Char) :
    narrow (sign :: needle) = sign :: narrow needle :=
  List.filter_cons_of_pos (by simpa using single)

section Parts

variable {first second pattern text : List Char}

/-- **A pattern of two parts** matches what each of them matches, one behind the other. -/
theorem like_append_iff : Like (first ++ second) text ↔
    ∃ before after, text = before ++ after ∧ Like first before ∧ Like second after := by
  induction first generalizing text with
  | nil =>
    constructor
    · exact fun like => ⟨[], text, rfl, .nothing, like⟩
    · rintro ⟨before, after, rfl, former, like⟩
      obtain rfl := like_nil_iff.mp former
      exact like
  | cons sign first hypothesis =>
    rw [List.cons_append]
    by_cases wide : sign = '%'
    · subst wide
      rw [like_run_iff]
      simp only [hypothesis, like_run_iff]
      constructor
      · rintro ⟨taken, _, rfl, before, after, rfl, former, latter⟩
        refine ⟨taken ++ before, after, (List.append_assoc _ _ _).symm, ?_, latter⟩
        exact ⟨taken, before, rfl, former⟩
      · rintro ⟨_, after, rfl, ⟨taken, before, rfl, former⟩, latter⟩
        exact ⟨taken, before ++ after, List.append_assoc _ _ _, before, after, rfl, former, latter⟩
    · rw [like_sign_iff wide]
      simp only [hypothesis, like_sign_iff wide]
      constructor
      · rintro ⟨head, _, rfl, stands, before, after, rfl, former, latter⟩
        exact ⟨head :: before, after, rfl, ⟨head, before, rfl, stands, former⟩, latter⟩
      · rintro ⟨_, after, rfl, ⟨head, before, rfl, stands, former⟩, latter⟩
        exact ⟨head, before ++ after, rfl, stands, before, after, rfl, former, latter⟩

theorem like_everything (text : List Char) : Like ['%'] text :=
  like_run_iff.mpr ⟨text, [], (List.append_nil text).symm, .nothing⟩

/-- A run may take nothing. -/
theorem Like.behind_run (like : Like pattern text) : Like ('%' :: pattern) text := .run [] like

/-- One run behind another takes nothing more. -/
theorem like_run_run_iff : Like ('%' :: '%' :: pattern) text ↔ Like ('%' :: pattern) text := by
  refine ⟨fun like => ?_, .behind_run⟩
  obtain ⟨taken, remaining, rfl, inner⟩ := like_run_iff.mp like
  obtain ⟨more, rest, rfl, last⟩ := like_run_iff.mp inner
  exact like_run_iff.mpr ⟨taken ++ more, rest, (List.append_assoc _ _ _).symm, last⟩

end Parts

/-! ### What searches find -/

section Found

variable {needle text : List Char}

/-- **A partial search finds the texts with a piece that the needle matches as a pattern.** -/
theorem like_containsPattern_iff (needle text : String) :
    Like (Predicate.containsPattern needle).toList text.toList ↔
      ∃ piece, piece <:+: text.toList ∧ Like needle.toList piece := by
  have parts : (Predicate.containsPattern needle).toList = '%' :: (needle.toList ++ ['%']) := by
    rw [Predicate.containsPattern, String.toList_append, String.toList_append]
    rfl
  rw [parts, like_run_iff]
  constructor
  · rintro ⟨before, _, split, like⟩
    obtain ⟨piece, after, rfl, like, -⟩ := like_append_iff.mp like
    exact ⟨piece, ⟨before, after, by rw [split, List.append_assoc]⟩, like⟩
  · rintro ⟨piece, ⟨before, after, split⟩, like⟩
    refine ⟨before, piece ++ after, by rw [← split, List.append_assoc], ?_⟩
    exact like_append_iff.mpr ⟨piece, after, rfl, like, like_everything after⟩

/-- The signs of a needle with a run before, between and behind them. -/
abbrev spaced (needle : List Char) : List Char := '%' :: needle.flatMap fun sign => [sign, '%']

/-- A run in the needle is one more between its neighbours. -/
theorem like_spaced_iff :
    Like (spaced needle) text ↔ ∃ piece, piece.Sublist text ∧ Like (narrow needle) piece := by
  induction needle generalizing text with
  | nil => exact iff_of_true (like_everything text) ⟨[], List.nil_sublist text, .nothing⟩
  | cons sign needle hypothesis =>
    by_cases wide : sign = '%'
    · subst wide
      rw [narrow_run, ← hypothesis]
      exact like_run_run_iff.trans like_run_run_iff
    · rw [narrow_sign wide, spaced, List.flatMap_cons, like_run_iff]
      constructor
      · rintro ⟨taken, _, rfl, like⟩
        obtain ⟨head, rest, rfl, stands, like⟩ := (like_sign_iff wide).mp like
        obtain ⟨piece, inside, like⟩ := hypothesis.mp like
        refine ⟨head :: piece, ?_, (like_sign_iff wide).mpr ⟨head, piece, rfl, stands, like⟩⟩
        exact (inside.cons_cons head).trans (List.sublist_append_right _ _)
      · rintro ⟨_, among, like⟩
        obtain ⟨head, piece, rfl, stands, like⟩ := (like_sign_iff wide).mp like
        obtain ⟨start, rest, rfl, inside, later⟩ := List.cons_sublist_iff.mp among
        obtain ⟨before, between, rfl⟩ := List.append_of_mem inside
        refine ⟨before, head :: (between ++ rest), by simp, ?_⟩
        refine (like_sign_iff wide).mpr ⟨head, _, rfl, stands, ?_⟩
        exact hypothesis.mpr ⟨piece, later.trans (List.sublist_append_right _ _), like⟩

/-- **A fuzzy search finds the texts that have what the signs of the needle stand for in order**; a run in
the needle asks for nothing. -/
theorem like_subsequencePattern_iff (needle text : String) :
    Like (Predicate.subsequencePattern needle).toList text.toList ↔
      ∃ piece, piece.Sublist text.toList ∧ Like (narrow needle.toList) piece := by
  rw [Predicate.subsequencePattern, String.toList_ofList]
  exact like_spaced_iff

end Found

/-! ### Needles with and without wildcards -/

section Wildcards

variable {needle piece text : List Char} {sign : Char}

theorem IsLiteral.narrow_eq (literal : IsLiteral needle) : narrow needle = needle :=
  List.filter_eq_self.mpr fun sign member => by
    simpa using fun wide : sign = '%' => literal.1 (wide ▸ member)

/-- **A needle without wildcards stands for itself.** -/
theorem IsLiteral.like_iff_spells (literal : IsLiteral needle) :
    Like needle piece ↔ Spells needle piece := by
  induction needle generalizing piece with
  | nil => rw [like_nil_iff, Spells, List.forall₂_nil_left_iff]
  | cons sign needle hypothesis =>
    obtain ⟨wide, blank⟩ := literal
    rw [List.mem_cons, not_or] at wide blank
    rw [like_sign_iff (Ne.symm wide.1), Spells, List.forall₂_cons_left_iff]
    refine exists_congr fun head => exists_congr fun rest => ?_
    rw [or_iff_right (Ne.symm blank.1), hypothesis ⟨wide.2, blank.2⟩]
    exact ⟨fun ⟨split, same, spells⟩ => ⟨same, spells, split⟩,
      fun ⟨same, spells, split⟩ => ⟨split, same, spells⟩⟩

/-- The signs of a needle are a text that it matches, with some letter for each blank. -/
def filled (needle : List Char) : List Char :=
  (narrow needle).map fun sign => if sign = '_' then 'a' else sign

theorem like_narrow_filled (needle : List Char) : Like (narrow needle) (filled needle) := by
  unfold filled
  induction needle with
  | nil => exact .nothing
  | cons sign needle hypothesis =>
    by_cases wide : sign = '%'
    · subst wide
      exact hypothesis
    · rw [narrow_sign wide, List.map_cons, like_sign_iff wide]
      refine ⟨_, _, rfl, ?_, hypothesis⟩
      by_cases blank : sign = '_'
      · exact .inl blank
      · rw [if_neg blank]
        exact .inr (Text.sameButCase_refl sign)

/-- Where the runs of a needle take nothing. -/
theorem like_of_narrow (like : Like (narrow needle) text) : Like needle text := by
  induction needle generalizing text with
  | nil => exact like
  | cons sign needle hypothesis =>
    by_cases wide : sign = '%'
    · subst wide
      exact (hypothesis like).behind_run
    · rw [narrow_sign wide, like_sign_iff wide] at like
      obtain ⟨head, rest, split, stands, like⟩ := like
      exact (like_sign_iff wide).mpr ⟨head, rest, split, stands, hypothesis like⟩

theorem isLiteral_filled (needle : List Char) : IsLiteral (filled needle) := by
  constructor
  · intro member
    obtain ⟨sign, inside, same⟩ := List.mem_map.mp member
    have single : sign ≠ '%' := by simpa using (List.mem_filter.mp inside).2
    split at same
    · cases same
    · exact single same
  · intro member
    obtain ⟨sign, _, same⟩ := List.mem_map.mp member
    split at same
    · cases same
    · rename_i sharp
      exact sharp same

/-- A sign without case is spelled by itself only. -/
theorem mem_of_spells (fixed : Text.foldedCode sign.toNat = sign.toNat) (low : sign.toNat < 97)
    (member : sign ∈ needle) (spells : Spells needle piece) : sign ∈ piece := by
  induction spells with
  | nil => cases member
  | @cons first head needle piece same _ hypothesis =>
    rcases List.mem_cons.mp member with rfl | inside
    · exact (Text.sameButCase_caseless fixed low head).mp same ▸ List.mem_cons_self
    · exact List.mem_cons_of_mem _ (hypothesis inside)

/-- **A text without wildcards has no needle with one.** -/
theorem IsLiteral.of_spells (literal : IsLiteral text) (subset : piece ⊆ text)
    (spells : Spells needle piece) : IsLiteral needle := by
  constructor
  · exact fun member => literal.1 (subset (mem_of_spells (by decide) (by decide) member spells))
  · exact fun member => literal.2 (subset (mem_of_spells (by decide) (by decide) member spells))

theorem IsLiteral.of_contains (literal : IsLiteral text) (contains : Contains needle text) :
    IsLiteral needle :=
  let ⟨_, inside, spells⟩ := contains
  literal.of_spells inside.subset spells

theorem IsLiteral.of_containsInOrder (literal : IsLiteral text) (contains : ContainsInOrder needle text) :
    IsLiteral needle :=
  let ⟨_, inside, spells⟩ := contains
  literal.of_spells inside.subset spells

end Wildcards

/-- **A search finds the texts with its needle exactly if the needle has no wildcard.** Else it finds what
the needle matches as a pattern: a partial search in a piece of the text, a fuzzy one in characters of it,
with no regard to the runs in the needle. -/
theorem searches_iff (needle : String) :
    (∀ text : String, Like (Predicate.containsPattern needle).toList text.toList ↔
      ∃ piece, piece <:+: text.toList ∧ Like needle.toList piece) ∧
    (∀ text : String, Like (Predicate.subsequencePattern needle).toList text.toList ↔
      ∃ piece, piece.Sublist text.toList ∧ Like (narrow needle.toList) piece) ∧
    ((∀ text : String, Like (Predicate.containsPattern needle).toList text.toList ↔
      Contains needle.toList text.toList) ↔ IsLiteral needle.toList) ∧
    ((∀ text : String, Like (Predicate.subsequencePattern needle).toList text.toList ↔
      ContainsInOrder needle.toList text.toList) ↔ IsLiteral needle.toList) := by
  have sample : (String.ofList (filled needle.toList)).toList = filled needle.toList :=
    String.toList_ofList
  refine ⟨like_containsPattern_iff needle, like_subsequencePattern_iff needle, ⟨fun same => ?_, ?_⟩,
    ⟨fun same => ?_, ?_⟩⟩
  · have found := (same (String.ofList (filled needle.toList))).mp
      ((like_containsPattern_iff _ _).mpr ⟨_, List.infix_rfl, ?_⟩)
    · rw [sample] at found
      exact (isLiteral_filled _).of_contains found
    · rw [sample]
      exact like_of_narrow (like_narrow_filled _)
  · intro literal text
    simp only [like_containsPattern_iff, literal.like_iff_spells, Contains]
  · have found := (same (String.ofList (filled needle.toList))).mp
      ((like_subsequencePattern_iff _ _).mpr ⟨_, List.Sublist.refl _, ?_⟩)
    · rw [sample] at found
      exact (isLiteral_filled _).of_containsInOrder found
    · rw [sample]
      exact like_narrow_filled _
  · intro literal text
    simp only [like_subsequencePattern_iff, literal.narrow_eq, literal.like_iff_spells, ContainsInOrder]

/-- Both searches for `5%` find a text without a percent sign. -/
theorem searches_find_discount :
    Like (Predicate.containsPattern "5%").toList "15 cents".toList ∧
      ¬ Contains "5%".toList "15 cents".toList ∧
      Like (Predicate.subsequencePattern "5%").toList "15 cents".toList ∧
      ¬ ContainsInOrder "5%".toList "15 cents".toList := by
  have literal : IsLiteral "15 cents".toList := ⟨by decide, by decide⟩
  have wild : ¬ IsLiteral "5%".toList := fun claimed => claimed.1 (by decide)
  have five : Like "5".toList "5".toList := .letter (by decide) (by decide) (by decide) .nothing
  refine ⟨(like_containsPattern_iff _ _).mpr ⟨"5".toList, ?_, like_of_narrow five⟩,
    fun found => wild (literal.of_contains found),
    (like_subsequencePattern_iff _ _).mpr ⟨"5".toList, by decide, five⟩,
    fun found => wild (literal.of_containsInOrder found)⟩
  exact ⟨"1".toList, " cents".toList, rfl⟩

end Polystore.Pattern
