/-
**The fields of folded rows.**

A row of a joined select is folded join by join, so a column belongs to the first join whose target its
name stands under (`Sql.ownerOf?`): a target that stands under the one of an earlier join gets nothing.

* `takeJoined_fst`: the columns that stay are those of no join;
* `mem_keys_takeJoined_snd`: a target is shown if it owns a column;
* `mem_keys_shownRow`: so these are the fields of a row.
-/

import Polystore.Proofs.Rows.Projection
import Polystore.Sql.Engine

namespace Polystore

/-- Whether the name of a column stands under the target of a join. -/
def Join.covers (join : Join) (column : String) : Bool := Text.startsWith (join.target ++ ".") column

/-- **The target that a column is nested under**: the one of the first join that covers it. -/
def Sql.ownerOf? (joins : List Join) (column : String) : Option String :=
  (joins.find? (·.covers column)).map (·.target)

theorem Text.isSome_dropLeading {beginning text : List Char} :
    (Text.dropLeading beginning text).isSome = true ↔ beginning <+: text := by
  induction beginning generalizing text with
  | nil => exact iff_of_true rfl List.nil_prefix
  | cons expected rest hypothesis =>
    cases text with
    | nil => simp [Text.dropLeading]
    | cons head others =>
      rw [Text.dropLeading, List.cons_prefix_cons]
      split
      · rename_i same
        rw [hypothesis, and_iff_right same.symm]
      · rename_i different
        exact iff_of_false Bool.false_ne_true fun both => different both.1.symm

/-- A join covers what begins with its target and a dot. -/
theorem Join.covers_iff {join : Join} {column : String} :
    join.covers column = true ↔ join.target.toList ++ ['.'] <+: column.toList := by
  rw [Join.covers, Text.startsWith, Text.isSome_dropLeading, String.toList_append]
  rfl

namespace Document

theorem mem_keys_insert {key name : String} {value : Value} {document : Document} :
    key ∈ keys (insert name value document) ↔ key ∈ keys document ∨ key = name := by
  rw [keys_insert]
  split
  · rename_i present
    exact ⟨.inl, fun either => either.elim id fun same => same ▸ present⟩
  · rw [List.mem_append, List.mem_singleton]

theorem mem_keys_extend {key : String} {fields document : Document} :
    key ∈ keys (extend document fields) ↔ key ∈ keys document ∨ key ∈ keys fields := by
  induction fields generalizing document with
  | nil => exact (or_iff_left List.not_mem_nil).symm
  | cons field rest hypothesis =>
    show key ∈ keys (extend (insert field.1 field.2 document) rest) ↔ _
    rw [hypothesis, mem_keys_insert, or_assoc]
    exact or_congr_right List.mem_cons.symm

theorem mem_keys_filter (keeps : String → Bool) {key : String} {document : Document} :
    key ∈ keys (document.filter fun field => keeps field.1) ↔
      key ∈ keys document ∧ keeps key = true := by
  have whole : keys (document.filter fun field => keeps field.1) = (keys document).filter keeps :=
    List.filter_map.symm
  rw [whole, List.mem_filter]

end Document

namespace Sql

variable {joins : List Join} {join : Join} {row : Document} {key : String}

theorem ownerOf?_cons (join : Join) (joins : List Join) (column : String) :
    ownerOf? (join :: joins) column =
      if join.covers column then some join.target else ownerOf? joins column := by
  unfold ownerOf?
  rw [List.find?_cons]
  cases join.covers column <;> rfl

/-- Columns are taken out of a row for a join if it covers some. -/
theorem isEmpty_joinedColumns : (joinedColumns join.target row).isEmpty = false ↔
    ∃ column ∈ Document.keys row, join.covers column = true := by
  have named (document : Document) : document.isEmpty = false ↔ ∃ name, name ∈ Document.keys document := by
    rw [List.isEmpty_eq_false_iff_exists_mem]
    exact ⟨fun ⟨field, member⟩ => ⟨field.1, List.mem_map_of_mem member⟩,
      fun ⟨_, member⟩ => (List.mem_map.mp member).imp fun _ found => found.1⟩
  rw [named, joinedColumns]
  constructor
  · rintro ⟨name, member⟩
    rcases Document.mem_keys_extend.mp member with none | member
    · cases none
    · obtain ⟨taken, inside, rfl⟩ := List.mem_map.mp member
      obtain ⟨⟨column, value⟩, among, cut⟩ := List.mem_filterMap.mp inside
      obtain ⟨rest, dropped, -⟩ := Option.map_eq_some_iff.mp cut
      refine ⟨column, List.mem_map_of_mem (f := Prod.fst) among, ?_⟩
      rw [Join.covers, Text.startsWith, dropped]
      rfl
  · rintro ⟨column, member, covered⟩
    obtain ⟨⟨_, value⟩, among, rfl⟩ := List.mem_map.mp member
    obtain ⟨rest, dropped⟩ := Option.isSome_iff_exists.mp covered
    refine ⟨String.ofList rest, Document.mem_keys_extend.mpr (.inr ?_)⟩
    refine List.mem_map.mpr ⟨(String.ofList rest, value), List.mem_filterMap.mpr ⟨_, among, ?_⟩, rfl⟩
    exact Option.map_eq_some_iff.mpr ⟨rest, dropped, rfl⟩

/-- One join after the other takes its columns out of what is left. -/
theorem takeJoined_cons (join : Join) (joins : List Join) (row : Document) :
    takeJoined (join :: joins) row =
      ((takeJoined joins (withoutJoined join.target row)).1,
        (if (joinedColumns join.target row).isEmpty then []
          else [(join.target, foldedColumns (joinedColumns join.target row))])
        ++ (takeJoined joins (withoutJoined join.target row)).2) := by
  rw [takeJoined]
  cases (joinedColumns join.target row).isEmpty <;> rfl

/-- **The columns that stay** are those of no join. -/
theorem takeJoined_fst (joins : List Join) (row : Document) :
    (takeJoined joins row).1 = row.filter fun field => (ownerOf? joins field.1).isNone := by
  induction joins generalizing row with
  | nil => exact (List.filter_eq_self.mpr fun _ _ => rfl).symm
  | cons join rest hypothesis =>
    rw [takeJoined_cons, hypothesis, withoutJoined, List.filter_filter]
    refine List.filter_congr fun field _ => ?_
    rw [ownerOf?_cons, Join.covers]
    cases Text.startsWith (join.target ++ ".") field.1 with
    | true => exact Bool.and_false _
    | false => exact Bool.and_true _

/-- **A target is shown** if it owns a column. -/
theorem mem_keys_takeJoined_snd : key ∈ Document.keys (takeJoined joins row).2 ↔
    ∃ column ∈ Document.keys row, ownerOf? joins column = some key := by
  induction joins generalizing row with
  | nil => exact iff_of_false List.not_mem_nil fun ⟨_, _, owned⟩ => nomatch owned
  | cons join rest hypothesis =>
    have first : key ∈ Document.keys (if (joinedColumns join.target row).isEmpty then []
          else [(join.target, foldedColumns (joinedColumns join.target row))]) ↔
        (∃ column ∈ Document.keys row, join.covers column = true) ∧ key = join.target := by
      rw [← isEmpty_joinedColumns]
      cases (joinedColumns join.target row).isEmpty <;> simp [Document.keys]
    have remains (column : String) : column ∈ Document.keys (withoutJoined join.target row) ↔
        column ∈ Document.keys row ∧ join.covers column = false := by
      rw [withoutJoined, Join.covers, ← Bool.not_eq_true']
      exact Document.mem_keys_filter (fun name => !Text.startsWith (join.target ++ ".") name)
    rw [takeJoined_cons, Document.keys, List.map_append, List.mem_append]
    refine (or_congr first hypothesis).trans ?_
    simp only [remains, ownerOf?_cons]
    constructor
    · rintro (⟨⟨column, member, covered⟩, rfl⟩ | ⟨column, ⟨member, free⟩, owned⟩)
      · exact ⟨column, member, if_pos covered⟩
      · exact ⟨column, member, by rw [free, if_neg Bool.false_ne_true, owned]⟩
    · rintro ⟨column, member, owned⟩
      cases covered : join.covers column with
      | true =>
        rw [covered, if_pos rfl] at owned
        exact .inl ⟨⟨column, member, covered⟩, (Option.some.inj owned).symm⟩
      | false =>
        rw [covered, if_neg Bool.false_ne_true] at owned
        exact .inr ⟨column, ⟨member, covered⟩, owned⟩

/-- The fields of a folded row, unless it shows that no base row was there. -/
theorem mem_keys_foldJoinedRow (based : Document.get? idField row ≠ some .null) :
    key ∈ Document.keys (foldJoinedRow joins row) ↔
      (key ∈ Document.keys row ∧ ownerOf? joins key = none) ∨
        ∃ column ∈ Document.keys row, ownerOf? joins column = some key := by
  cases joins with
  | nil => simp [foldJoinedRow, ownerOf?]
  | cons join rest =>
    have kept : Document.get? idField (takeJoined (join :: rest) row).1 ≠ some .null := by
      rw [takeJoined_fst, Document.get?_filter_key (fun name => (ownerOf? (join :: rest) name).isNone)]
      split
      · exact based
      · exact nofun
    have folded : foldJoinedRow (join :: rest) row =
        Document.extend (takeJoined (join :: rest) row).1 (takeJoined (join :: rest) row).2 := by
      rw [foldJoinedRow, List.isEmpty_cons, if_neg Bool.false_ne_true]
      -- What is kept excludes the case of a null identifier.
      simp only
    rw [folded, Document.mem_keys_extend, mem_keys_takeJoined_snd, takeJoined_fst,
      Document.mem_keys_filter (fun name => (ownerOf? (join :: rest) name).isNone),
      Option.isNone_iff_eq_none]

/-- An identifier is shown where it stands. -/
theorem mem_keys_canonicalDocument :
    key ∈ Document.keys (TextIdentifier.canonicalDocument row) ↔ key ∈ Document.keys row := by
  have written {value : Value} (found : (Document.get? idField row).isSome) :
      key ∈ Document.keys (Document.insert idField value row) ↔ key ∈ Document.keys row := by
    rw [Document.mem_keys_insert, or_iff_left_iff_imp]
    exact fun same => same ▸ Document.contains_iff.mp found
  unfold TextIdentifier.canonicalDocument
  split
  · rename_i found
    exact written (Option.isSome_of_eq_some found)
  · rename_i found
    exact written (Option.isSome_of_eq_some found)
  · exact Iff.rfl

/-- **The fields of a shown row.** -/
theorem mem_keys_shownRow (based : Document.get? idField row ≠ some .null) :
    key ∈ Document.keys (shownRow joins row) ↔
      (key ∈ Document.keys row ∧ ownerOf? joins key = none) ∨
        ∃ column ∈ Document.keys row, ownerOf? joins column = some key := by
  rw [shownRow, mem_keys_canonicalDocument, mem_keys_foldJoinedRow based]

end Sql

end Polystore
