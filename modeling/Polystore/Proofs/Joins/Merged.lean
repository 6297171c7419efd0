/-
**What a join makes of its base rows.**

A join goes through its base rows one after the other and marks the joined rows that it uses. What it
makes of a base row depends on no other one, and a joined row is marked exactly if some base row matches
it.

* `visit_eq`: a base row adds its own rows, and marks the joined rows that it matches;
* `visitAll_eq`: so all base rows together mark the joined rows that one of them matches;
* `joinRows_eq_flatMap`: the rows of a join, without its marks.
-/

import Mathlib.Data.List.Basic
import Polystore.Native.Join

namespace Polystore.Native

/-- What a base row becomes. -/
def joinRow (join : Join) (joined : List Document) (row : Document) : List Document :=
  let partners := joined.filter (isMatch join row)
  if partners.isEmpty then
    if join.kind.keepsUnmatchedBase then [Document.insert join.target .null row] else []
  else partners.map (extended join row)

/-- The joined rows that no base row matches. -/
def unmatchedJoined (join : Join) (rows joined : List Document) : List Document :=
  joined.filter fun other => !rows.any fun row => isMatch join row other

section Merging

variable {join : Join} {joined rows : List Document} {row : Document} {merging : Merging}

/-! ### The places of the joined rows -/

theorem mem_matchedPlaces {place : Nat} :
    place ∈ matchedPlaces join joined row ↔ (joined[place]?).any (isMatch join row) = true := by
  unfold matchedPlaces
  rw [List.mem_map, Option.any_eq_true]
  constructor
  · rintro ⟨⟨other, place⟩, member, rfl⟩
    obtain ⟨listed, matched⟩ := List.mem_filter.mp member
    exact ⟨other, List.mem_zipIdx_iff_getElem?.mp listed, matched⟩
  · rintro ⟨other, listed, matched⟩
    exact ⟨(other, place), List.mem_filter.mpr ⟨List.mem_zipIdx_iff_getElem?.mpr listed, matched⟩, rfl⟩

/-- The joined rows at the places where a base row matches. -/
theorem flatMap_matchedPlaces :
    (matchedPlaces join joined row).flatMap (fun place => joined[place]?.toList) =
      joined.filter (isMatch join row) := by
  have read : ∀ entry ∈ joined.zipIdx.filter fun entry => isMatch join row entry.1,
      joined[entry.2]?.toList = [entry.1] := by
    intro entry member
    rw [List.mem_zipIdx_iff_getElem?.mp (List.mem_of_mem_filter member), Option.toList_some]
  rw [matchedPlaces, List.flatMap_map, List.flatMap_congr read, ← List.map_eq_flatMap]
  have whole : (joined.zipIdx.map Prod.fst).filter (isMatch join row) = _ := List.filter_map
  rw [List.zipIdx_map_fst] at whole
  exact whole.symm

theorem isEmpty_matchedPlaces :
    (matchedPlaces join joined row).isEmpty = (joined.filter (isMatch join row)).isEmpty := by
  rw [← flatMap_matchedPlaces, Bool.eq_iff_iff, List.isEmpty_iff, List.isEmpty_iff, List.flatMap_eq_nil_iff]
  constructor
  · intro none
    simp [none]
  · intro none
    refine List.eq_nil_iff_forall_not_mem.mpr fun place member => ?_
    obtain ⟨other, found, -⟩ := (Option.any_eq_true _ _).mp (mem_matchedPlaces.mp member)
    have missing := none place member
    rw [found] at missing
    cases missing

/-! ### One base row -/

theorem rows_foldl_use (places : List Nat) :
    (places.foldl (Merging.use join joined row) merging).rows =
      merging.rows ++ (places.flatMap fun place => joined[place]?.toList).map (extended join row) := by
  induction places generalizing merging with
  | nil => exact (List.append_nil _).symm
  | cons place rest hypothesis =>
    rw [List.foldl_cons, hypothesis, List.flatMap_cons, List.map_append, ← List.append_assoc]
    rfl

/-- Using joined rows marks the places where they stand. -/
theorem used_foldl_use (places : List Nat) (place : Nat) :
    (places.foldl (Merging.use join joined row) merging).used[place]? =
      merging.used[place]?.map (· || places.contains place) := by
  induction places generalizing merging with
  | nil => simp
  | cons first rest hypothesis =>
    have marked : (Merging.use join joined row merging first).used = merging.used.set first true := rfl
    rw [List.foldl_cons, hypothesis, marked, List.getElem?_set]
    by_cases same : first = place
    · subst same
      by_cases inside : first < merging.used.length
      · simp [inside]
      · simp [inside]
    · rw [if_neg same]
      simp [Ne.symm same]

/-- The joined rows that a base row matches are used all together. -/
theorem foldl_use_matchedPlaces (earlier : Document → Bool) (marks : merging.used = joined.map earlier) :
    (matchedPlaces join joined row).foldl (Merging.use join joined row) merging =
      ⟨merging.rows ++ (joined.filter (isMatch join row)).map (extended join row),
        joined.map fun other => earlier other || isMatch join row other⟩ := by
  rw [← flatMap_matchedPlaces, ← rows_foldl_use]
  refine congrArg (Merging.mk _) (List.ext_getElem? fun place => ?_)
  rw [used_foldl_use, marks, List.getElem?_map, List.getElem?_map]
  have listed := @mem_matchedPlaces join joined row place
  cases found : joined[place]? with
  | none => rfl
  | some other =>
    rw [found, Option.any_some, ← List.contains_iff_mem, ← Bool.eq_iff_iff] at listed
    simp only [Option.map_some, listed]

/-- **A base row adds its own rows and marks the joined rows that it matches.** -/
theorem visit_eq (earlier : Document → Bool) (marks : merging.used = joined.map earlier) :
    merging.visit join joined row =
      ⟨merging.rows ++ joinRow join joined row,
        joined.map fun other => earlier other || isMatch join row other⟩ := by
  unfold Merging.visit joinRow
  simp only [isEmpty_matchedPlaces]
  split
  · rename_i alone
    have unmarked : joined.map (fun other => earlier other || isMatch join row other) = merging.used := by
      rw [marks]
      refine List.map_congr_left fun other member => ?_
      rw [Bool.eq_false_iff.mpr fun matched => List.filter_eq_nil_iff.mp
        (List.isEmpty_iff.mp alone) other member matched, Bool.or_false]
    rw [unmarked]
    split
    · rfl
    · rw [List.append_nil]
  · exact foldl_use_matchedPlaces earlier marks

/-! ### All base rows -/

/-- **A joined row is marked exactly if some base row matches it.** -/
theorem visitAll_eq (join : Join) (rows joined : List Document) :
    Merging.visitAll join rows joined =
      ⟨rows.flatMap (joinRow join joined),
        joined.map fun other => rows.any fun row => isMatch join row other⟩ := by
  suffices general : ∀ (earlier : Document → Bool) (made : List Document),
      rows.foldl (Merging.visit join joined) ⟨made, joined.map earlier⟩ =
        ⟨made ++ rows.flatMap (joinRow join joined),
          joined.map fun other => earlier other || rows.any fun row => isMatch join row other⟩ by
    have unmarked : List.replicate joined.length false = joined.map fun _ => false := by
      rw [List.map_const']
    rw [Merging.visitAll, unmarked, general]
    simp
  induction rows with
  | nil => simp
  | cons row rest hypothesis =>
    intro earlier made
    rw [List.foldl_cons, visit_eq earlier rfl, hypothesis, List.flatMap_cons, List.append_assoc]
    simp only [List.any_cons, Bool.or_assoc]

/-- Rows beside their marks, without those that are marked. -/
theorem zip_filter_unmarked (marks : Document → Bool) (change : Document → Document) :
    ((joined.zip (joined.map marks)).filter (!·.2)).map (fun entry => change entry.1) =
      (joined.filter fun other => !marks other).map change := by
  induction joined with
  | nil => rfl
  | cons other rest hypothesis =>
    rw [List.map_cons, List.zip_cons_cons, List.filter_cons, List.filter_cons]
    split <;> simp [hypothesis]

/-- **The rows of a join that is no cross join**: those of each base row in turn, and behind them the
joined rows that none of them matches. -/
theorem joinRows_eq_flatMap (paired : join.kind ≠ .cross) (rows joined : List Document) :
    joinRows join rows joined =
      rows.flatMap (joinRow join joined)
        ++ if join.kind.keepsUnmatchedJoined then
            (unmatchedJoined join rows joined).map (extended join [])
          else [] := by
  unfold joinRows
  rw [if_neg paired, visitAll_eq]
  simp only
  rw [zip_filter_unmarked]
  rfl

end Merging

end Polystore.Native
