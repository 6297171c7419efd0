/-
**The identifiers that relational rows show.**

A row of the driver is folded and then shown in its canonical form, which turns a whole number under
`id` into its decimal text. That reaches the identifier of the row itself; the documents under the
targets of its joins have been made before and keep what their columns hold.

* `cell_foldJoinedRow`: what a folded row holds under a name without a dot;
* `innerId_cell_shownRow`: the identifier under a target is the one that the row of the driver carries;
* `select_identifiers`: so the rows of a select are canonical everywhere exactly if none of the carried
  identifiers is a whole number;
* `not_isCanonical_select_posts`: a join whose rows are not.
-/

import Polystore.Proofs.Program.Record
import Polystore.Proofs.Rows.Folded
import Polystore.Proofs.Rows.Written
import Polystore.Script

namespace Polystore

/-! ### Identifiers -/

namespace Value

/-- Whether a table holds such values as identifiers: whole numbers, texts and null. -/
def isTableId : Value → Bool
  | int32 _ | int64 _ | string _ | null => true
  | _ => false

/-- Whether rows show such values as identifiers: texts and null. -/
def isCanonicalId : Value → Bool
  | string _ | null => true
  | _ => false

def isWholeNumber : Value → Bool
  | int32 _ | int64 _ => true
  | _ => false

theorem eq_null_of_isNull {value : Value} (empty : value.isNull = true) : value = null := by
  cases value with
  | null => rfl
  | _ => cases empty

theorem isCanonicalId_iff {value : Value} (held : value.isTableId = true) :
    value.isCanonicalId = true ↔ value.isWholeNumber = false := by
  cases value with
  | int32 _ | int64 _ => exact iff_of_false Bool.false_ne_true nofun
  | string _ | null => exact iff_of_true rfl rfl
  | _ => cases held

end Value

/-- **An identifier of a table as rows show it**: a whole number as its decimal text. -/
def TextIdentifier.canonicalValue : Value → Value
  | .int32 number => .string (toString number.toInt)
  | .int64 number => .string (toString number.toInt)
  | value => value

theorem TextIdentifier.isCanonicalId_canonicalValue {value : Value} (held : value.isTableId = true) :
    (canonicalValue value).isCanonicalId = true := by
  cases value with
  | int32 _ | int64 _ | string _ | null => rfl
  | _ => cases held

/-! ### Cells -/

namespace Document

/-- What a row holds under a name; null if there is nothing. -/
def cell (name : String) (row : Document) : Value := (get? name row).getD .null

variable {key : String} {document fields : Document}

theorem cell_congr {other : Document} (same : get? key document = get? key other) :
    cell key document = cell key other := by
  rw [cell, cell, same]

theorem cell_insert_self (key : String) (value : Value) (document : Document) :
    cell key (insert key value document) = value := by
  rw [cell, get?_insert_self]
  rfl

/-- Fields that are null can be left out. -/
theorem cell_withoutNulls (distinct : (keys document).Nodup) :
    cell key (document.filter (!·.2.isNull)) = cell key document := by
  cases found : get? key (document.filter (!·.2.isNull)) with
  | some value =>
    rw [cell, cell, found, get?_of_mem distinct (List.mem_of_mem_filter (mem_of_get? found))]
  | none =>
    cases whole : get? key document with
    | none => rw [cell, cell, found, whole]
    | some value =>
      cases empty : value.isNull with
      | true =>
        rw [cell, cell, found, whole, Value.eq_null_of_isNull empty]
        rfl
      | false =>
        have kept : (key, value) ∈ document.filter (!·.2.isNull) :=
          List.mem_filter.mpr ⟨mem_of_get? whole, by simp [empty]⟩
        rw [get?_of_mem (nodup_keys_filter distinct _) kept] at found
        cases found

theorem cell_of_all_isNull (empty : fields.all (·.2.isNull) = true) : cell key fields = .null := by
  rw [cell]
  cases found : get? key fields with
  | none => rfl
  | some value => exact Value.eq_null_of_isNull (List.all_eq_true.mp empty _ (mem_of_get? found))

end Document

/-- The identifier of a nested document; null if there is none. -/
def Value.innerId : Value → Value
  | .document inner => Document.cell idField inner
  | _ => .null

namespace TextIdentifier

/-- **A row in its canonical form** shows its identifier so, -/
theorem cell_canonicalDocument (row : Document) :
    Document.cell idField (canonicalDocument row) = canonicalValue (Document.cell idField row) := by
  unfold canonicalDocument
  split
  · rename_i found
    rw [Document.cell_insert_self, Document.cell, found]
    rfl
  · rename_i found
    rw [Document.cell_insert_self, Document.cell, found]
    rfl
  · rename_i short long
    rw [Document.cell]
    cases found : Document.get? idField row with
    | none => rfl
    | some value =>
      cases value with
      | int32 number => exact absurd found (short number)
      | int64 number => exact absurd found (long number)
      | _ => rfl

/-- and everything else as it was. -/
theorem cell_canonicalDocument_of_ne {key : String} (other : key ≠ idField) (row : Document) :
    Document.cell key (canonicalDocument row) = Document.cell key row := by
  unfold canonicalDocument
  split
  · exact Document.cell_congr (Document.get?_insert_of_ne other _ _)
  · exact Document.cell_congr (Document.get?_insert_of_ne other _ _)
  · rfl

end TextIdentifier

/-! ### Columns of joins -/

theorem Text.dropLeading_eq_some_iff {beginning text rest : List Char} :
    dropLeading beginning text = some rest ↔ text = beginning ++ rest := by
  constructor
  · intro dropped
    obtain ⟨others, rfl⟩ := isSome_dropLeading.mp (Option.isSome_of_eq_some dropped)
    rw [dropLeading_append] at dropped
    rw [Option.some.inj dropped]
  · rintro rfl
    exact dropLeading_append beginning rest

/-- A target without a dot is what stands before the first dot of a column under it. -/
theorem Join.takeWhile_of_covers {join : Join} {column : String}
    (undotted : Text.hasChar '.' join.target = false) (covered : join.covers column = true) :
    column.toList.takeWhile (· != '.') = join.target.toList := by
  obtain ⟨rest, cut⟩ := covers_iff.mp covered
  have free : ∀ sign ∈ join.target.toList, (sign != '.') = true := by
    rintro sign member
    refine bne_iff_ne.mpr ?_
    rintro rfl
    rw [Text.hasChar, List.contains_iff_mem.mpr member] at undotted
    cases undotted
  rw [← cut, List.append_assoc, List.takeWhile_append_of_pos free, List.singleton_append,
    List.takeWhile_cons_of_neg (by decide), List.append_nil]

/-- Two targets without dots share no column. -/
theorem Join.target_eq_of_covers {first second : Join} {column : String}
    (plain : Text.hasChar '.' first.target = false) (undotted : Text.hasChar '.' second.target = false)
    (covered : first.covers column = true) (both : second.covers column = true) :
    first.target = second.target := by
  rw [← String.toList_inj, ← takeWhile_of_covers plain covered, takeWhile_of_covers undotted both]

/-- A column without a dot stands under no target. -/
theorem Join.covers_of_undotted {column : String} (undotted : Text.hasChar '.' column = false)
    (join : Join) : join.covers column = false := by
  refine Bool.eq_false_iff.mpr fun covered => ?_
  obtain ⟨rest, cut⟩ := covers_iff.mp covered
  have dotted : '.' ∈ column.toList := by
    rw [← cut]
    simp
  rw [Text.hasChar, List.contains_iff_mem.mpr dotted] at undotted
  cases undotted

namespace Sql

variable {joins : List Join} {join : Join} {row record : Document} {key target : String}

theorem ownerOf?_of_undotted (undotted : Text.hasChar '.' key = false) (joins : List Join) :
    ownerOf? joins key = none := by
  have uncovered : joins.find? (·.covers key) = none :=
    List.find?_eq_none.mpr fun join _ => by simp [Join.covers_of_undotted undotted join]
  rw [ownerOf?, uncovered]
  rfl

/-- A field as it stands under a target, if its name begins with that and a dot. -/
def fieldUnder? (target : String) (field : String × Value) : Option (String × Value) :=
  (Text.dropLeading (target ++ ".").toList field.1.toList).map fun name => (String.ofList name, field.2)

theorem joinedColumns_eq (target : String) (row : Document) :
    joinedColumns target row = Document.ofFields (row.filterMap (fieldUnder? target)) := rfl

theorem fieldUnder?_eq_some_iff {field inner : String × Value} :
    fieldUnder? target field = some inner ↔ field = (target ++ "." ++ inner.1, inner.2) := by
  obtain ⟨column, value⟩ := field
  obtain ⟨name, held⟩ := inner
  have whole : (target ++ "." ++ name).toList = (target ++ ".").toList ++ name.toList :=
    String.toList_append
  rw [fieldUnder?, Option.map_eq_some_iff, Prod.mk.injEq, ← String.toList_inj, whole]
  simp only [Text.dropLeading_eq_some_iff, Prod.mk.injEq]
  constructor
  · rintro ⟨rest, cut, rfl, rfl⟩
    exact ⟨by rw [cut, String.toList_ofList], rfl⟩
  · rintro ⟨cut, rfl⟩
    exact ⟨name.toList, cut, String.ofList_toList, rfl⟩

theorem get?_filterMap_fieldUnder? (name : String) (row : Document) :
    Document.get? name (row.filterMap (fieldUnder? target)) =
      Document.get? (target ++ "." ++ name) row := by
  induction row with
  | nil => rfl
  | cons field rest hypothesis =>
    obtain ⟨column, value⟩ := field
    rw [Document.get?]
    cases cut : fieldUnder? target (column, value) with
    | none =>
      have different : column ≠ target ++ "." ++ name := by
        rintro rfl
        have found : fieldUnder? target (target ++ "." ++ name, value) = some (name, value) :=
          fieldUnder?_eq_some_iff.mpr rfl
        rw [found] at cut
        cases cut
      rw [List.filterMap_cons_none cut, hypothesis, if_neg different]
    | some inner =>
      obtain ⟨rfl, rfl⟩ := Prod.mk.inj (fieldUnder?_eq_some_iff.mp cut)
      rw [List.filterMap_cons_some cut, Document.get?, hypothesis]
      simp only [String.append_right_inj]

theorem nodup_keys_filterMap_fieldUnder? (distinct : (Document.keys row).Nodup) (target : String) :
    (Document.keys (row.filterMap (fieldUnder? target))).Nodup := by
  induction row with
  | nil => exact List.nodup_nil
  | cons field rest hypothesis =>
    obtain ⟨fresh, others⟩ := List.nodup_cons.mp distinct
    cases cut : fieldUnder? target field with
    | none =>
      rw [List.filterMap_cons_none cut]
      exact hypothesis others
    | some inner =>
      rw [List.filterMap_cons_some cut]
      refine List.nodup_cons.mpr ⟨fun again => fresh ?_, hypothesis others⟩
      rw [fieldUnder?_eq_some_iff.mp cut]
      have held := Document.contains_iff.mpr again
      rw [Document.contains, get?_filterMap_fieldUnder?] at held
      exact Document.contains_iff.mp held

/-- **What a nested document holds** is what the row holds under its target. -/
theorem get?_joinedColumns (distinct : (Document.keys row).Nodup) (name : String) :
    Document.get? name (joinedColumns target row) = Document.get? (target ++ "." ++ name) row := by
  rw [joinedColumns_eq, Document.ofFields,
    Document.get?_extend (nodup_keys_filterMap_fieldUnder? distinct target), get?_filterMap_fieldUnder?,
    Document.get?_nil, Option.or_none]

/-- A join leaves the columns of another target alone. -/
theorem joinedColumns_withoutJoined {other : Join} (plain : Text.hasChar '.' join.target = false)
    (undotted : Text.hasChar '.' other.target = false) (different : other.target ≠ join.target)
    (row : Document) :
    joinedColumns join.target (withoutJoined other.target row) = joinedColumns join.target row := by
  rw [joinedColumns_eq, joinedColumns_eq, withoutJoined, List.filterMap_filter]
  refine congrArg Document.ofFields (List.filterMap_congr fun field _ => ?_)
  cases covered : Text.startsWith (other.target ++ ".") field.1 with
  | false => rfl
  | true =>
    have free : join.covers field.1 = false := Bool.eq_false_iff.mpr fun both =>
      different (Join.target_eq_of_covers undotted plain covered both)
    rw [fieldUnder?, Option.not_isSome_iff_eq_none.mp (Bool.eq_false_iff.mp free)]
    rfl

/-! ### Folded rows -/

/-- **Plain targets**: each join has its own, without a dot, and none is `id`. -/
structure PlainTargets (joins : List Join) : Prop where
  distinct : (joins.map (·.target)).Nodup
  undotted : ∀ join ∈ joins, Text.hasChar '.' join.target = false
  apart : ∀ join ∈ joins, join.target ≠ idField

theorem PlainTargets.tail (plain : PlainTargets (join :: joins)) : PlainTargets joins where
  distinct := (List.nodup_cons.mp plain.distinct).2
  undotted other member := plain.undotted other (List.mem_cons_of_mem _ member)
  apart other member := plain.apart other (List.mem_cons_of_mem _ member)

theorem keys_takeJoined_sublist (joins : List Join) (row : Document) :
    (Document.keys (takeJoined joins row).2).Sublist (joins.map (·.target)) := by
  induction joins generalizing row with
  | nil => exact List.Sublist.refl _
  | cons join joins hypothesis =>
    rw [takeJoined_cons]
    cases (joinedColumns join.target row).isEmpty with
    | true => exact (hypothesis _).cons _
    | false => exact (hypothesis _).cons_cons _

/-- **What is shown under a target**: its columns, if there are any. -/
theorem get?_takeJoined (plain : PlainTargets joins) (member : join ∈ joins) (row : Document) :
    Document.get? join.target (takeJoined joins row).2 =
      if (joinedColumns join.target row).isEmpty then none
      else some (foldedColumns (joinedColumns join.target row)) := by
  induction joins generalizing row with
  | nil => cases member
  | cons first joins hypothesis =>
    rw [takeJoined_cons]
    rcases List.mem_cons.mp member with rfl | later
    · cases (joinedColumns join.target row).isEmpty with
      | true =>
        refine Document.get?_of_not_mem_keys fun shown => ?_
        exact (List.nodup_cons.mp plain.distinct).1 ((keys_takeJoined_sublist _ _).subset shown)
      | false => exact if_pos rfl
    · have different : first.target ≠ join.target := fun same =>
        (List.nodup_cons.mp plain.distinct).1 (List.mem_map.mpr ⟨join, later, same.symm⟩)
      have others := hypothesis plain.tail later (withoutJoined first.target row)
      rw [joinedColumns_withoutJoined (plain.undotted join member)
        (plain.undotted first List.mem_cons_self) different] at others
      rw [← others]
      cases (joinedColumns first.target row).isEmpty with
      | true => rfl
      | false => exact if_neg different

/-- **What a folded row holds** under a name without a dot: the columns of the target of that name, or
what the row held before. -/
theorem cell_foldJoinedRow (plain : PlainTargets joins) (distinct : (Document.keys row).Nodup)
    (undotted : Text.hasChar '.' key = false) :
    Document.cell key (foldJoinedRow joins row) =
      (Document.get? key (takeJoined joins row).2).getD (Document.cell key row) := by
  have remains : Document.cell key (takeJoined joins row).1 = Document.cell key row := by
    refine Document.cell_congr ?_
    rw [takeJoined_fst, Document.get?_filter_key (fun name => (ownerOf? joins name).isNone),
      ownerOf?_of_undotted undotted, Option.isNone_none, if_pos rfl]
  have few : (Document.keys (takeJoined joins row).1).Nodup := by
    rw [takeJoined_fst]
    exact Document.nodup_keys_filter distinct _
  have folded : ∃ base, foldJoinedRow joins row = Document.extend base (takeJoined joins row).2 ∧
      Document.cell key base = Document.cell key row := by
    cases joins with
    | nil => exact ⟨row, rfl, rfl⟩
    | cons join joins =>
      refine ⟨_, rfl, ?_⟩
      -- The base columns of a row that only a joined table produced are left out where they are null.
      split
      · exact (Document.cell_withoutNulls few).trans remains
      · exact remains
  obtain ⟨base, shape, kept⟩ := folded
  have nested := plain.distinct.sublist (keys_takeJoined_sublist joins row)
  rw [shape, Document.cell, Document.get?_extend nested, ← kept]
  cases Document.get? key (takeJoined joins row).2 <;> rfl

/-- The identifier in the columns of a target. -/
theorem innerId_foldedColumns (columns : Document) :
    (foldedColumns columns).innerId = Document.cell idField columns := by
  unfold foldedColumns
  split
  · rename_i empty
    exact (Document.cell_of_all_isNull empty).symm
  · rfl

/-! ### Shown rows -/

/-- **The identifier that a row of the driver carries for a join**: the one among its columns, or, if
there are none, the one in a document under the target itself. -/
def carriedId (join : Join) (record : Document) : Value :=
  if (Document.keys record).any join.covers then Document.cell (join.target ++ "." ++ idField) record
  else (Document.cell join.target record).innerId

/-- The row itself shows its identifier as a text. -/
theorem cell_shownRow (plain : PlainTargets joins) (distinct : (Document.keys record).Nodup) :
    Document.cell idField (shownRow joins record) =
      TextIdentifier.canonicalValue (Document.cell idField record) := by
  have free : Document.get? idField (takeJoined joins record).2 = none := by
    refine Document.get?_of_not_mem_keys fun shown => ?_
    obtain ⟨join, member, same⟩ := List.mem_map.mp ((keys_takeJoined_sublist _ _).subset shown)
    exact plain.apart join member same
  rw [shownRow, TextIdentifier.cell_canonicalDocument, cell_foldJoinedRow plain distinct (by decide), free]
  rfl

/-- **Under a target a row shows the identifier as the driver gave it.** -/
theorem innerId_cell_shownRow (plain : PlainTargets joins) (distinct : (Document.keys record).Nodup)
    (member : join ∈ joins) :
    (Document.cell join.target (shownRow joins record)).innerId = carriedId join record := by
  have covered : (Document.keys record).any join.covers = !(joinedColumns join.target record).isEmpty := by
    rw [Bool.eq_iff_iff, Bool.not_eq_true', isEmpty_joinedColumns, List.any_eq_true]
  rw [shownRow, TextIdentifier.cell_canonicalDocument_of_ne (plain.apart join member),
    cell_foldJoinedRow plain distinct (plain.undotted join member), get?_takeJoined plain member, carriedId,
    covered]
  cases (joinedColumns join.target record).isEmpty with
  | true => rfl
  | false =>
    refine (innerId_foldedColumns _).trans ?_
    rw [Document.cell, get?_joinedColumns distinct]
    rfl

/-- **A row of the driver whose identifiers are whole numbers, texts or null.** -/
structure Identified (joins : List Join) (record : Document) : Prop where
  distinct : (Document.keys record).Nodup
  own : (Document.cell idField record).isTableId = true
  carried : ∀ join ∈ joins, (carriedId join record).isTableId = true

/-- **A row that is canonical everywhere**: its own identifier and those under its targets are texts or
null. -/
structure IsCanonical (joins : List Join) (row : Document) : Prop where
  own : (Document.cell idField row).isCanonicalId = true
  nested : ∀ join ∈ joins, (Document.cell join.target row).innerId.isCanonicalId = true

/-- **A shown row is canonical** exactly if no join carries a whole number. -/
theorem isCanonical_shownRow_iff (plain : PlainTargets joins) (identified : Identified joins record) :
    IsCanonical joins (shownRow joins record) ↔
      ∀ join ∈ joins, (carriedId join record).isWholeNumber = false := by
  have shows (join : Join) (member : join ∈ joins) :
      (Document.cell join.target (shownRow joins record)).innerId.isCanonicalId = true ↔
        (carriedId join record).isWholeNumber = false := by
    rw [innerId_cell_shownRow plain identified.distinct member]
    exact Value.isCanonicalId_iff (identified.carried join member)
  constructor
  · exact fun canonical join member => (shows join member).mp (canonical.nested join member)
  · refine fun texts => ⟨?_, fun join member => (shows join member).mpr (texts join member)⟩
    rw [cell_shownRow plain identified.distinct]
    exact TextIdentifier.isCanonicalId_canonicalValue identified.own

/-! ### Selects -/

/-- The rows that a query was answered with. -/
def repliedRows : Program.Noting interface (Option (List Document))
  | _, .query _, .ok rows => some rows
  | _, _, _ => none

section Runs

variable {σ : Type} {driver : Driver interface σ} {dialect : SqlDialect} {scope : Scope} {query : Query}
  {world last : World σ} {rows : List Document}

/-- **The rows of a select** are the last ones that the driver gave, as they are shown; there are none if
an identifier cannot be read. -/
theorem exists_records_of_select
    (ran : ((engine dialect).select scope query).run driver world = (.finished (.ok rows), last)) :
    rows = [] ∨ ∃ records,
      (((engine dialect).select scope query).record repliedRows driver world).getLast? =
        some (some records) ∧
      rows = records.map (shownRow query.joins) := by
  refine (Program.run_orIfInvalidIdentifier_ok ran).symm.imp_right fun selected => ?_
  rw [engine, Program.record_orIfInvalidIdentifier]
  unfold selectRows at selected ⊢
  obtain ⟨_, checking, checked, selected⟩ := Program.run_bind_ok.mp selected
  obtain ⟨columns, known, fetched, selected⟩ := Program.run_bind_ok.mp selected
  obtain ⟨statement, written, made, selected⟩ := Program.run_bind_ok.mp selected
  obtain ⟨records, answered, asked, shown⟩ := Program.run_bind_ok.mp selected
  cases shown
  refine ⟨records, ?_, rfl⟩
  have noted : (Sql.query scope statement).record repliedRows driver written = [some records] :=
    Program.record_ask asked
  rw [Program.record_bind_of_ok checked, Program.record_bind_of_ok fetched,
    Program.record_bind_of_ok made, Program.record_bind_of_ok asked, noted]
  show (_ ++ (_ ++ (_ ++ [some records]))).getLast? = _
  rw [← List.append_assoc, ← List.append_assoc, List.getLast?_concat]

/-- **The identifiers of the rows of a select.** Each row is made of one of the driver. It shows its own
identifier as a text, and under the target of every join the identifier that the driver gave for it, as
it was given: so the row is canonical exactly if none of these is a whole number. -/
theorem select_identifiers (plain : PlainTargets query.joins)
    (ran : ((engine dialect).select scope query).run driver world = (.finished (.ok rows), last)) :
    rows = [] ∨ ∃ records,
      (((engine dialect).select scope query).record repliedRows driver world).getLast? =
        some (some records) ∧
      rows = records.map (shownRow query.joins) ∧
      ∀ record ∈ records, Identified query.joins record →
        Document.cell idField (shownRow query.joins record) =
          TextIdentifier.canonicalValue (Document.cell idField record) ∧
        (Document.cell idField (shownRow query.joins record)).isCanonicalId = true ∧
        (∀ join ∈ query.joins,
          (Document.cell join.target (shownRow query.joins record)).innerId = carriedId join record) ∧
        (IsCanonical query.joins (shownRow query.joins record) ↔
          ∀ join ∈ query.joins, (carriedId join record).isWholeNumber = false) := by
  refine (exists_records_of_select ran).imp_right ?_
  rintro ⟨records, replied, shown⟩
  refine ⟨records, replied, shown, fun record _ identified => ?_⟩
  have own := cell_shownRow plain identified.distinct
  refine ⟨own, ?_, fun join member => innerId_cell_shownRow plain identified.distinct member,
    isCanonical_shownRow_iff plain identified⟩
  rw [own]
  exact TextIdentifier.isCanonicalId_canonicalValue identified.own

end Runs

/-- Posts with their authors. -/
def postsWithAuthors : Query :=
  { Query.ofTable "posts" with joins := [.keyed .left "people" "author" "id"] }

/-- A script with one post by the given author. -/
def postBy (author : Value) : World Script :=
  ⟨⟨5, 0⟩, ⟨[⟨none, [[("name", .string "id")]], none, []⟩,
    ⟨none, [[("id", .int64 1), ("people.id", author)]], none, []⟩], 0⟩⟩

/-- A post whose author has a text for an identifier. -/
theorem isCanonical_select_posts :
    ((engine .sqlite).select .connection postsWithAuthors).run Script.sqlDriver (postBy (.string "k7")) =
      (.finished (.ok [[("id", .string "1"), ("people", .document [("id", .string "k7")])]]),
        ⟨⟨5, 0⟩, .empty⟩) ∧
    IsCanonical postsWithAuthors.joins
      [("id", .string "1"), ("people", .document [("id", .string "k7")])] := by
  have plain : PlainTargets postsWithAuthors.joins := ⟨by decide, by decide, by decide⟩
  have ran : ((engine .sqlite).select .connection postsWithAuthors).run Script.sqlDriver
      (postBy (.string "k7")) =
        (.finished (.ok [[("id", .string "1"), ("people", .document [("id", .string "k7")])]]),
          ⟨⟨5, 0⟩, .empty⟩) := rfl
  refine ⟨ran, ?_⟩
  rcases select_identifiers plain ran with none | ⟨records, replied, -, shows⟩
  · cases none
  · obtain rfl : [[("id", .int64 1), ("people.id", .string "k7")]] = records :=
      Option.some.inj (Option.some.inj replied)
    obtain ⟨-, -, -, canonical⟩ := shows _ List.mem_cons_self ⟨by decide, rfl, by decide⟩
    exact canonical.mpr (by decide)

/-- A post whose author has a whole number: the post shows its own one as a text, and that one as it
is. -/
theorem not_isCanonical_select_posts :
    ((engine .sqlite).select .connection postsWithAuthors).run Script.sqlDriver (postBy (.int64 7)) =
      (.finished (.ok [[("id", .string "1"), ("people", .document [("id", .int64 7)])]]),
        ⟨⟨5, 0⟩, .empty⟩) ∧
    PlainTargets postsWithAuthors.joins ∧
    Identified postsWithAuthors.joins [("id", .int64 1), ("people.id", .int64 7)] ∧
    ¬ IsCanonical postsWithAuthors.joins
      [("id", .string "1"), ("people", .document [("id", .int64 7)])] := by
  refine ⟨rfl, ⟨by decide, by decide, by decide⟩, ⟨by decide, rfl, by decide⟩, fun canonical => ?_⟩
  cases canonical.nested _ List.mem_cons_self

end Sql

end Polystore
