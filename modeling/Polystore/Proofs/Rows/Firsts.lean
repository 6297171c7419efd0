/-
**The first row of each combination of columns.**

Rows are alike where the values of the columns have one text in descriptions. Grouping goes through the
rows and remembers the keys that it has met, so what stays of the rest depends on them (`StayBehind`): every
row of the rest is one whose key is known or has a first one like it.

* `exists_stayBehind`: what stays of the rest of the rows;
* `lookup?_selectedRow_named`: a row that was reduced to columns holds under each of them what the column
  finds in the whole row, also where the path of one column leads through another one;
* `firstPerKey_keeps_firsts`: which rows stay.
-/

import Polystore.Proofs.Rows.Count
import Polystore.Proofs.Rows.Projection
import Polystore.Proofs.Value.Debug

namespace Polystore.Native

/-- The text of the values of columns in a row; a missing one is null. -/
def rowText (columns : List String) (row : Document) : String := Value.debugList (rowKey columns row)

/-- Whether the values of columns in two rows have one text. -/
def Alike (columns : List String) (left right : Document) : Prop :=
  rowText columns left = rowText columns right

/-- **The first rows of each kind**, with the places where they stood: a subsequence without two alike
rows, in which each row has exactly one like it, and that one does not come after it. -/
structure AreFirsts (columns : List String) (rows : List Document) (kept : List (Document × Nat)) :
    Prop where
  sublist : kept.Sublist rows.zipIdx
  apart : kept.Pairwise fun earlier later => ¬ Alike columns earlier.1 later.1
  first : ∀ row ∈ rows.zipIdx, ∃ earlier ∈ kept, earlier.2 ≤ row.2 ∧
    ∀ other ∈ kept, Alike columns row.1 other.1 ↔ other = earlier

/-- What stays of placed rows where keys are known already. -/
structure StayBehind (columns : List String) (seen : List (List Value)) (placed kept : List (Document × Nat)) :
    Prop where
  sublist : kept.Sublist placed
  apart : kept.Pairwise fun earlier later => ¬ Alike columns earlier.1 later.1
  fresh : ∀ row ∈ kept, printedKey columns row.1 ∉ seen.map Value.printedItems
  covered : ∀ row ∈ placed, printedKey columns row.1 ∈ seen.map Value.printedItems ∨
    ∃ earlier ∈ kept, earlier.2 ≤ row.2 ∧ Alike columns row.1 earlier.1

section Firsts

variable {columns : List String} {seen : List (List Value)} {row : Document} {rows : List Document}
  {placed kept : List (Document × Nat)} {place : Nat}

/-- Rows are alike if the values of the columns print alike. -/
theorem alike_iff {left right : Document} :
    Alike columns left right ↔ printedKey columns left = printedKey columns right := by
  rw [Alike, rowText, rowText, Value.debugList_eq_iff, Value.identicalItems_iff]
  rfl

/-! ### What stays -/

/-- A row with a known key does not stay. -/
theorem StayBehind.known (stays : StayBehind columns seen placed kept)
    (known : printedKey columns row ∈ seen.map Value.printedItems) (place : Nat) :
    StayBehind columns seen ((row, place) :: placed) kept where
  sublist := stays.sublist.cons _
  apart := stays.apart
  fresh := stays.fresh
  covered := List.forall_mem_cons.mpr ⟨.inl known, stays.covered⟩

/-- A row with a new key stays, and its key is known behind it. -/
theorem StayBehind.new (stays : StayBehind columns (rowKey columns row :: seen) placed kept)
    (new : printedKey columns row ∉ seen.map Value.printedItems)
    (behind : ∀ later ∈ placed, place ≤ later.2) :
    StayBehind columns seen ((row, place) :: placed) ((row, place) :: kept) where
  sublist := stays.sublist.cons_cons _
  apart := by
    refine List.pairwise_cons.mpr ⟨fun later inside alike => ?_, stays.apart⟩
    refine stays.fresh later inside ?_
    rw [← alike_iff.mp alike]
    exact List.mem_cons_self
  fresh := by
    refine List.forall_mem_cons.mpr ⟨new, fun later inside known => ?_⟩
    exact stays.fresh later inside (List.mem_cons_of_mem _ known)
  covered := by
    refine List.forall_mem_cons.mpr ⟨.inr ⟨_, List.mem_cons_self, le_rfl, rfl⟩, fun later inside => ?_⟩
    rcases stays.covered later inside with known | ⟨earlier, among, before, alike⟩
    · rcases List.mem_cons.mp known with same | known
      · exact .inr ⟨(row, place), List.mem_cons_self, behind later inside, alike_iff.mpr same⟩
      · exact .inl known
    · exact .inr ⟨earlier, List.mem_cons_of_mem _ among, before, alike⟩

/-- **What stays of the rest of the rows.** -/
theorem exists_stayBehind (columns : List String) (seen : List (List Value)) (rows : List Document)
    (place : Nat) :
    ∃ kept, StayBehind columns seen (rows.zipIdx place) kept ∧
      firstPerKeyFrom columns seen rows = kept.map Prod.fst := by
  -- A row that stays makes its key known to the rows behind it, so any keys may be known before.
  induction rows generalizing seen place with
  | nil => exact ⟨[], ⟨List.nil_sublist _, .nil, nofun, nofun⟩, rfl⟩
  | cons row rest hypothesis =>
    rw [List.zipIdx_cons]
    by_cases known : printedKey columns row ∈ seen.map Value.printedItems
    · obtain ⟨kept, stays, same⟩ := hypothesis seen (place + 1)
      exact ⟨kept, stays.known known place, by rw [firstPerKeyFrom_of_mem known, same]⟩
    · obtain ⟨kept, stays, same⟩ := hypothesis (rowKey columns row :: seen) (place + 1)
      refine ⟨(row, place) :: kept, stays.new known fun later inside => ?_, ?_⟩
      · exact (Nat.le_succ place).trans (List.le_snd_of_mem_zipIdx inside)
      · rw [firstPerKeyFrom_of_not_mem known, same, List.map_cons]

/-- Where no key is known before, the first rows stay. -/
theorem StayBehind.areFirsts (stays : StayBehind columns [] rows.zipIdx kept) :
    AreFirsts columns rows kept where
  sublist := stays.sublist
  apart := stays.apart
  first := by
    intro row inside
    obtain ⟨earlier, among, before, alike⟩ := (stays.covered row inside).resolve_left List.not_mem_nil
    refine ⟨earlier, among, before, fun other member => ⟨fun same => ?_, fun same => same ▸ alike⟩⟩
    by_contra different
    have symmetric : Std.Symm fun former latter : Document × Nat => ¬ Alike columns former.1 latter.1 :=
      ⟨fun former latter apart alike => apart alike.symm⟩
    exact stays.apart.forall member among different (same.symm.trans alike)

/-- Rows without two alike ones all stay. -/
theorem firstPerKeyFrom_of_apart
    (apart : rows.Pairwise fun earlier later => ¬ Alike columns earlier later)
    (fresh : ∀ row ∈ rows, printedKey columns row ∉ seen.map Value.printedItems) :
    firstPerKeyFrom columns seen rows = rows := by
  induction rows generalizing seen with
  | nil => rfl
  | cons row rest hypothesis =>
    obtain ⟨others, apart⟩ := List.pairwise_cons.mp apart
    obtain ⟨new, fresh⟩ := List.forall_mem_cons.mp fresh
    rw [firstPerKeyFrom_of_not_mem new, hypothesis apart fun later inside known => ?_]
    rcases List.mem_cons.mp known with same | known
    · exact others later inside (alike_iff.mpr same.symm)
    · exact fresh later inside known

/-- What is done to rows without a change to their keys can be done to the first ones. -/
theorem firstPerKeyFrom_map {change : Document → Document}
    (keeps : ∀ row, rowKey columns (change row) = rowKey columns row) (seen : List (List Value))
    (rows : List Document) :
    firstPerKeyFrom columns seen (rows.map change) = (firstPerKeyFrom columns seen rows).map change := by
  induction rows generalizing seen with
  | nil => rfl
  | cons row rest hypothesis =>
    rw [List.map_cons, firstPerKeyFrom, firstPerKeyFrom, keeps, hypothesis, hypothesis]
    split
    · rfl
    · exact (List.map_cons ..).symm

end Firsts

/-! ### Rows reduced to columns -/

section Reduced

variable {columns : List String} {path : String} {row : Document}

/-- Fields whose values are read off their keys. -/
theorem get?_extend_read (read : String → Option Value) (names : List String) (key : String)
    (document : Document) :
    Document.get? key (Document.extend document (names.filterMap fun name => (read name).map (name, ·))) =
      if key ∈ names then (read key).or (Document.get? key document) else Document.get? key document := by
  induction names generalizing document with
  | nil => rfl
  | cons name rest hypothesis =>
    cases found : read name with
    | none =>
      rw [List.filterMap_cons_none (by rw [found]; rfl), hypothesis]
      by_cases same : key = name
      · subst same
        simp [found]
      · simp [same]
    | some value =>
      rw [List.filterMap_cons_some (by rw [found]; rfl)]
      show Document.get? key (Document.extend (Document.insert name value document) _) = _
      rw [hypothesis]
      by_cases same : key = name
      · subst same
        simp [found, Document.get?_insert_self]
      · simp [same, Document.get?_insert_of_ne same]

/-- The fields of a row that was reduced to columns. -/
theorem get?_selectedRow_named (columns : List String) (key : String) (row : Document) :
    Document.get? key (selectedRow (columns.map Column.named) [] row) =
      if key ∈ columns then Document.lookup? key row else none := by
  have fields : selectedRow (columns.map Column.named) [] row =
      Document.extend [] (columns.filterMap fun name => (Document.lookup? name row).map (name, ·)) := by
    rw [selectedRow, List.filterMap_map, List.filterMap_nil, List.append_nil]
    rfl
  rw [fields, get?_extend_read]
  simp

/-- **A column finds in the reduced row what it finds in the whole one.** Where it finds nothing there, the
first part of its path may still be a column of its own: under that one stands the same document. -/
theorem lookup?_selectedRow_named (selected : path ∈ columns) :
    Document.lookup? path (selectedRow (columns.map Column.named) [] row) = Document.lookup? path row := by
  have direct := get?_selectedRow_named columns path row
  rw [if_pos selected] at direct
  cases found : Document.lookup? path row with
  | some value => exact Document.lookup?_of_get? (direct.trans found)
  | none =>
    have absent : Document.get? path row = none := by
      cases present : Document.get? path row with
      | none => rfl
      | some value => exact absurd (Document.lookup?_of_get? present) (by rw [found]; exact nofun)
    rw [Document.lookup?_of_none (direct.trans found)]
    rw [Document.lookup?_of_none absent] at found
    match segments : Text.segmentsOf '.' path with
    | [] | [_] => rfl
    | key :: next :: rest =>
      have inside : key ∈ Text.segmentsOf '.' path := by rw [segments]; exact List.mem_cons_self
      rw [segments] at found
      simp only at found ⊢
      rw [get?_selectedRow_named, Document.lookup?_eq_get? (Text.hasChar_of_mem_segmentsOf inside)]
      by_cases among : key ∈ columns
      · rw [if_pos among]
        exact found
      · rw [if_neg among]

theorem rowKey_selectedRow_named (columns : List String) (row : Document) :
    rowKey columns (selectedRow (columns.map Column.named) [] row) = rowKey columns row :=
  List.map_congr_left fun column selected => by rw [lookup?_selectedRow_named selected]

end Reduced

/-- **Grouping keeps exactly the first row of each kind.** Nothing changes if the rows that stay are grouped
again, and there are as many of them in whatever order the rows come. Rows that were reduced to the columns
are alike exactly if the whole rows are, and the same ones of them stay. -/
theorem firstPerKey_keeps_firsts (columns : List String) (rows : List Document) :
    (∃ kept, AreFirsts columns rows kept ∧ firstPerKey columns rows = kept.map Prod.fst) ∧
      firstPerKey columns (firstPerKey columns rows) = firstPerKey columns rows ∧
      (∀ others : List Document, rows.Perm others →
        (firstPerKey columns others).length = (firstPerKey columns rows).length) ∧
      (∀ left right, Alike columns (selectedRow (columns.map Column.named) [] left)
          (selectedRow (columns.map Column.named) [] right) ↔ Alike columns left right) ∧
      firstPerKey columns (selectColumns (columns.map Column.named) [] rows) =
        selectColumns (columns.map Column.named) [] (firstPerKey columns rows) := by
  obtain ⟨kept, stays, same⟩ := exists_stayBehind columns [] rows 0
  have firsts : firstPerKey columns rows = kept.map Prod.fst := same
  refine ⟨⟨kept, stays.areFirsts, firsts⟩, ?_, fun others perm => ?_, fun left right => ?_, ?_⟩
  · have apart : (firstPerKey columns rows).Pairwise fun earlier later => ¬ Alike columns earlier later := by
      rw [firsts]
      exact List.pairwise_map.mpr stays.apart
    exact firstPerKeyFrom_of_apart apart fun _ _ => List.not_mem_nil
  · exact length_firstPerKey_congr columns fun row => perm.mem_iff.symm
  · rw [Alike, Alike, rowText, rowText, rowKey_selectedRow_named, rowKey_selectedRow_named]
    rfl
  · exact firstPerKeyFrom_map (rowKey_selectedRow_named columns) [] rows

example : firstPerKey ["a.b"]
    [[("a", .document [("b", .int32 1)])], [("a.b", .int32 1)], [("a", .int32 1)]] =
      [[("a", .document [("b", .int32 1)])], [("a", .int32 1)]] := by rfl

end Polystore.Native
