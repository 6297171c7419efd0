/-
**The texts that a pattern matches in SQL.**

`Pattern.Like` is `LIKE`: `%` stands for any run of characters, `_` for any single one, and every other
sign for itself up to case. A document store reads the pattern as a regular expression, in which neither
`%` nor `_` stands for a line feed.

* `Like.count_le`: a text that a pattern matches has at least the line feeds of the pattern;
* `follows_iff_like`: a document store asks for no more of them;
* `passes_like_iff`: so a filter differs from `LIKE` on the texts that have more;
* `passes_like_twoLines`: one of them.
-/

import Polystore.Proofs.Filter.Meaning

namespace Polystore

/-! ### Characters without case -/

namespace Text

/-- A character folds to itself, or to a letter behind the capitals. -/
theorem foldedCode_eq_or_le (code : Nat) : foldedCode code = code ∨ 97 ≤ foldedCode code := by
  unfold foldedCode
  split
  · rename_i range found
    have above : ∀ range ∈ foldingRanges, 97 ≤ (range.first : Int) + range.shift := by
      decide +kernel
    have low := above range (List.mem_of_find?_eq_some found)
    have inside := List.find?_some found
    simp only [FoldingRange.holds, Bool.and_eq_true, decide_eq_true_eq] at inside
    right
    omega
  · exact .inl rfl

theorem sameButCase_comm (left right : Char) : sameButCase left right = sameButCase right left := by
  unfold sameButCase
  rw [BEq.comm, BEq.comm (a := foldedCode left.toNat)]

/-- **A character before the small letters that folds to itself** is the same as no other one. -/
theorem sameButCase_caseless {sign : Char} (fixed : foldedCode sign.toNat = sign.toNat)
    (low : sign.toNat < 97) (character : Char) :
    sameButCase sign character = true ↔ character = sign := by
  unfold sameButCase
  rw [Bool.or_eq_true, beq_iff_eq, beq_iff_eq, fixed]
  constructor
  · rintro (rfl | folded)
    · rfl
    · rcases foldedCode_eq_or_le character.toNat with same | letter
      · exact Char.toNat_inj.mp (same.symm.trans folded.symm)
      · omega
  · rintro rfl
    exact .inl rfl

theorem sameButCase_refl (character : Char) : sameButCase character character = true := by
  simp [sameButCase]

end Text

namespace Pattern

/-- **Whether a pattern matches a text in SQL**, ignoring case. -/
inductive Like : List Char → List Char → Prop
  | nothing : Like [] []
  | run {pattern rest : List Char} (taken : List Char) :
      Like pattern rest → Like ('%' :: pattern) (taken ++ rest)
  | any {pattern rest : List Char} (head : Char) :
      Like pattern rest → Like ('_' :: pattern) (head :: rest)
  | letter {sign head : Char} {pattern rest : List Char} : sign ≠ '%' → sign ≠ '_' →
      Text.sameButCase sign head = true → Like pattern rest → Like (sign :: pattern) (head :: rest)

section Like

variable {pattern text : List Char} {sign head : Char}

theorem like_nil_iff : Like [] text ↔ text = [] := by
  constructor
  · intro like
    cases like
    rfl
  · rintro rfl
    exact .nothing

theorem like_run_iff :
    Like ('%' :: pattern) text ↔ ∃ taken rest, text = taken ++ rest ∧ Like pattern rest := by
  constructor
  · intro like
    cases like with
    | run taken like => exact ⟨taken, _, rfl, like⟩
    | letter other => exact absurd rfl other
  · rintro ⟨taken, rest, rfl, like⟩
    exact .run taken like

/-- A sign other than `%` stands for one character. -/
theorem like_sign_iff (single : sign ≠ '%') : Like (sign :: pattern) text ↔
    ∃ head rest, text = head :: rest ∧ (sign = '_' ∨ Text.sameButCase sign head = true) ∧
      Like pattern rest := by
  constructor
  · intro like
    cases like with
    | run => exact absurd rfl single
    | any head like => exact ⟨head, _, rfl, .inl rfl, like⟩
    | letter _ _ same like => exact ⟨_, _, rfl, .inr same, like⟩
  · rintro ⟨head, rest, rfl, stands, like⟩
    by_cases blank : sign = '_'
    · subst blank
      exact .any head like
    · exact .letter single blank (stands.resolve_left blank) like

end Like

/-! ### Line feeds -/

section LineFeeds

variable {pattern text : List Char} {sign head : Char}

/-- Letters that are the same but for case are line feeds together. -/
theorem beq_lineFeed_of_same (same : Text.sameButCase sign head = true) :
    (sign == '\n') = (head == '\n') := by
  have caseless (character : Char) : Text.sameButCase '\n' character = true ↔ character = '\n' :=
    Text.sameButCase_caseless (by decide) (by decide) character
  rw [Bool.eq_iff_iff, beq_iff_eq, beq_iff_eq]
  constructor
  · rintro rfl
    exact (caseless head).mp same
  · rintro rfl
    rw [Text.sameButCase_comm] at same
    exact (caseless sign).mp same

/-- **A text that a pattern matches has at least the line feeds of the pattern.** -/
theorem Like.count_le (like : Like pattern text) : pattern.count '\n' ≤ text.count '\n' := by
  induction like with
  | nothing => exact le_rfl
  | run taken like hypothesis =>
    rw [List.count_append, List.count_cons_of_ne (by decide)]
    omega
  | any head like hypothesis =>
    rw [List.count_cons_of_ne (by decide)]
    exact hypothesis.trans List.count_le_count_cons
  | letter _ _ same like hypothesis =>
    rw [List.count_cons, List.count_cons, beq_lineFeed_of_same same]
    omega

/-- A run within a line, by what it takes. -/
theorem afterRun_eq_true_iff {wanted : List Char → Bool} :
    afterRun wanted text = true ↔
      ∃ taken rest, text = taken ++ rest ∧ '\n' ∉ taken ∧ wanted rest = true := by
  induction text with
  | nil =>
    constructor
    · exact fun holds => ⟨[], [], rfl, List.not_mem_nil, holds⟩
    · rintro ⟨taken, rest, split, -, holds⟩
      obtain ⟨rfl, rfl⟩ := List.append_eq_nil_iff.mp split.symm
      exact holds
  | cons head text hypothesis =>
    rw [afterRun, Bool.or_eq_true, Bool.and_eq_true, bne_iff_ne, hypothesis]
    constructor
    · rintro (holds | ⟨line, taken, rest, rfl, inside, holds⟩)
      · exact ⟨[], head :: text, rfl, List.not_mem_nil, holds⟩
      · refine ⟨head :: taken, rest, rfl, ?_, holds⟩
        exact List.not_mem_cons_of_ne_of_not_mem line.symm inside
    · rintro ⟨taken, rest, split, inside, holds⟩
      cases taken with
      | nil =>
        obtain rfl : head :: text = rest := split
        exact .inl holds
      | cons first taken =>
        obtain ⟨rfl, rfl⟩ := List.cons.inj split
        refine .inr ⟨?_, taken, rest, rfl, fun member => inside (List.mem_cons_of_mem _ member), holds⟩
        exact fun feed => inside (feed ▸ List.mem_cons_self)

/-- The sign of one character, and what the line feeds of the two say of the others. -/
theorem stands_and_count_iff (least : pattern.count '\n' ≤ text.count '\n') :
    (stands sign head = true ∧ text.count '\n' = pattern.count '\n') ↔
      (sign = '_' ∨ Text.sameButCase sign head = true) ∧
        (head :: text).count '\n' = (sign :: pattern).count '\n' := by
  unfold stands
  by_cases blank : sign = '_'
  · subst blank
    have uncounted : ('_' :: pattern).count '\n' = pattern.count '\n' := List.count_cons_of_ne (by decide)
    rw [if_pos rfl, bne_iff_ne, uncounted]
    refine Iff.trans ?_ (and_iff_right (Or.inl rfl)).symm
    by_cases feed : head = '\n'
    · subst feed
      rw [List.count_cons_self]
      exact iff_of_false (fun both => both.1 rfl) (by omega)
    · rw [List.count_cons_of_ne feed]
      exact and_iff_right feed
  · rw [if_neg blank, or_iff_right blank]
    refine and_congr_right fun same => ?_
    rw [List.count_cons, List.count_cons, beq_lineFeed_of_same same, Nat.add_right_cancel_iff]

/-- **A text follows a pattern exactly if the pattern matches it and has all of its line feeds.** -/
theorem follows_iff_like : follows pattern text = true ↔
    Like pattern text ∧ text.count '\n' = pattern.count '\n' := by
  induction pattern generalizing text with
  | nil =>
    rw [follows, List.isEmpty_iff, like_nil_iff]
    exact (and_iff_left_of_imp fun nothing => nothing ▸ rfl).symm
  | cons sign pattern hypothesis =>
    by_cases wide : sign = '%'
    · subst wide
      rw [follows_run, afterRun_eq_true_iff, like_run_iff, List.count_cons_of_ne (by decide)]
      constructor
      · rintro ⟨taken, rest, rfl, inside, follows⟩
        obtain ⟨like, counted⟩ := hypothesis.mp follows
        refine ⟨⟨taken, rest, rfl, like⟩, ?_⟩
        rw [List.count_append, List.count_eq_zero_of_not_mem inside, counted, Nat.zero_add]
      · rintro ⟨⟨taken, rest, rfl, like⟩, counted⟩
        -- The rest has all line feeds of the pattern, so what is taken has none.
        rw [List.count_append] at counted
        have least := like.count_le
        refine ⟨taken, rest, rfl, List.count_eq_zero.mp (by omega), hypothesis.mpr ⟨like, by omega⟩⟩
    · cases text with
      | nil =>
        rw [follows_nothing wide, like_sign_iff wide]
        refine iff_of_false Bool.false_ne_true ?_
        rintro ⟨⟨_, _, split, -⟩, -⟩
        cases split
      | cons head rest =>
        rw [follows_sign wide, Bool.and_eq_true, hypothesis, like_sign_iff wide]
        constructor
        · rintro ⟨stands, like, counted⟩
          obtain ⟨sign, counted⟩ := (stands_and_count_iff like.count_le).mp ⟨stands, counted⟩
          exact ⟨⟨head, rest, rfl, sign, like⟩, counted⟩
        · rintro ⟨⟨_, _, split, sign, like⟩, counted⟩
          obtain ⟨rfl, rfl⟩ := List.cons.inj split
          obtain ⟨stands, counted⟩ := (stands_and_count_iff like.count_le).mpr ⟨sign, counted⟩
          exact ⟨stands, like, counted⟩

end LineFeeds

end Pattern

/-! ### Filters -/

open Memory Native Pattern

/-- A filter on a column that looks like an operator fails. -/
theorem exists_error_of_operator {column : String} (dollar : Text.startsWith "$" column = true)
    (operators document : Document) :
    ∃ error, passes document (onColumn column operators) = .error error := by
  have named : field column = column := by
    refine if_neg fun identifies => ?_
    rw [identifies] at dollar
    exact absurd dollar (by decide)
  simp only [onColumn, passes_singleton, entryPasses, named]
  cases Junction.ofKey? column with
  | some junction => exact ⟨_, rfl⟩
  | none => exact ⟨.unsupported _, by simp only [fieldPasses, dollar, if_true]; rfl⟩

/-- **A filter for a pattern accepts the texts that the pattern matches in SQL, but for those that have
more line feeds than the pattern.** A column that looks like an operator is refused. -/
theorem passes_like_iff {column pattern text : String} {document : Document} (connective : Connective)
    (held : Predicate.fieldOf column document = some (.string text)) :
    ∃ filter, Native.filter [(connective, .like column pattern)] = .ok filter ∧
      (Text.startsWith "$" column = true → ∃ error, passes document filter = .error error) ∧
      (Text.startsWith "$" column = false → ∃ accepted, passes document filter = .ok accepted ∧
        (accepted = true ↔
          Like pattern.toList text.toList ∧ text.toList.count '\n' = pattern.toList.count '\n') ∧
        ('\n' ∉ text.toList → (accepted = true ↔ Like pattern.toList text.toList))) := by
  refine ⟨_, rfl, fun dollar => exists_error_of_operator dollar _ _, fun plain => ?_⟩
  have decided : passes document (onColumn column [("$regex", .string (Native.likePattern pattern)),
      ("$options", .string "i")]) = .ok (Predicate.meets document (.like column pattern)) :=
    (settles_like column pattern).eq_ok plain
  rw [Predicate.meets, held] at decided
  refine ⟨_, decided, follows_iff_like, fun oneLine => ?_⟩
  rw [follows_iff_like]
  refine and_iff_left_of_imp fun like => ?_
  have least := like.count_le
  rw [List.count_eq_zero_of_not_mem oneLine] at least ⊢
  exact (Nat.le_zero.mp least).symm

/-- A pattern with both wildcards and a line feed of its own. -/
theorem passes_like_ownLineFeed :
    Predicate.fieldOf "note" [("note", .string "Ab\ncd")] = some (.string "Ab\ncd") ∧
      ∃ filter, Native.filter [(.and, .like "note" "a_\n%")] = .ok filter ∧
        passes [("note", .string "Ab\ncd")] filter = .ok true := by
  obtain ⟨filter, made, -, decided⟩ :=
    @passes_like_iff "note" "a_\n%" "Ab\ncd" [("note", .string "Ab\ncd")] .and rfl
  obtain ⟨accepted, passed, counted, -⟩ := decided rfl
  refine ⟨rfl, filter, made, ?_⟩
  have matched : Like "a_\n%".toList "Ab\ncd".toList := by
    refine .letter (by decide) (by decide) (by decide) (.any 'b' ?_)
    exact .letter (by decide) (by decide) (by decide) (.run "cd".toList .nothing)
  rw [passed, counted.mpr ⟨matched, by decide⟩]

/-- A run of characters is taken for one line only. -/
theorem passes_like_twoLines :
    Like "a%".toList "a\nb".toList ∧
      Predicate.fieldOf "name" [("name", .string "a\nb")] = some (.string "a\nb") ∧
      ∃ filter, Native.filter [(.and, .like "name" "a%")] = .ok filter ∧
        passes [("name", .string "a\nb")] filter = .ok false := by
  refine ⟨.letter (by decide) (by decide) (by decide) (.run "\nb".toList .nothing), rfl, _, rfl, ?_⟩
  exact (settles_like "name" "a%").eq_ok rfl

end Polystore
