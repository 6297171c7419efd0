/-
**Rows whose joined columns were put side by side.**

A joined select answers with flat rows: the columns of the base table, and behind them those of each
join, every one with the target of its join and a dot in front of its name (`Sql.flatRow`). Folding takes
them apart again.

* `covers_under_of_apart`: where no target stands under another one, the columns of different joins
  cannot be taken for each other, whatever dots their own names have;
* `takeJoined_flatRow`: so each join gets back just its own columns, and the base row is what remains;
* `foldJoinedRow_flatRow`: folding undoes the flattening.
-/

import Polystore.Proofs.Rows.Canonical

namespace Polystore

/-- A join covers the columns that were put under its target. -/
theorem Join.covers_under (join : Join) (name : String) :
    join.covers (join.target ++ "." ++ name) = true := by
  rw [covers_iff, String.toList_append, String.toList_append]
  exact List.prefix_append _ _

/-- **Columns of different joins are told apart** by their targets, if neither stands under the other. -/
theorem Join.covers_under_of_apart {first second : Join} (different : first.target ≠ second.target)
    (apart : first.covers second.target = false) (under : second.covers first.target = false)
    (name : String) : first.covers (second.target ++ "." ++ name) = false := by
  have separate {former latter : Join} (other : former.target ≠ latter.target)
      (free : former.covers latter.target = false) :
      ¬ former.target.toList ++ ['.'] <+: latter.target.toList ++ ['.'] := by
    intro begins
    rcases List.prefix_concat_iff.mp begins with same | shorter
    · exact other (String.toList_inj.mp (List.append_cancel_right same))
    · rw [covers_iff.mpr shorter] at free
      cases free
  refine Bool.eq_false_iff.mpr fun covered => ?_
  -- Both targets with their dots begin the same name, so one of them begins the other.
  rcases List.prefix_or_prefix_of_prefix (covers_iff.mp covered)
    (covers_iff.mp (second.covers_under name)) with longer | shorter
  · exact separate different apart longer
  · exact separate different.symm under shorter

namespace Sql

/-- What a select finds for a join: a document, or nothing, which shows as columns that are all null. -/
inductive Side where
  | matched (document : Document)
  | unmatched (columns : List String)
  deriving Repr

namespace Side

/-- The columns of the joined table. -/
def columns : Side → Document
  | matched document => document
  | unmatched columns => columns.map fun column => (column, .null)

/-- What a row shows under the target of the join. -/
def shown : Side → Value
  | matched document => .document document
  | unmatched _ => .null

/-- **Whether a side can be told from its columns**: there are some, and those of a document are not all
null. -/
def IsProper : Side → Prop
  | matched document => (Document.keys document).Nodup ∧ ∃ field ∈ document, field.2.isNull = false
  | unmatched columns => columns.Nodup ∧ columns ≠ []

end Side

/-- Columns under the target of a join. -/
def underTarget (target : String) (columns : Document) : Document :=
  columns.map fun column => (target ++ "." ++ column.1, column.2)

/-- The columns of all joins, join by join. -/
def flatColumns (sides : List (Join × Side)) : Document :=
  sides.flatMap fun side => underTarget side.1.target side.2.columns

/-- **A row of a joined select**: the fields of the base row, and behind them the columns of the joins. -/
def flatRow (base : Document) (sides : List (Join × Side)) : Document := base ++ flatColumns sides

/-- The fields that a folded row shows under the targets of its joins. -/
def shownSides (sides : List (Join × Side)) : Document :=
  sides.map fun side => (side.1.target, side.2.shown)

/-- **Separate targets**: each join has its own, and no target stands under another one. -/
structure SeparateTargets (joins : List Join) : Prop where
  distinct : (joins.map (·.target)).Nodup
  apart : ∀ join ∈ joins, ∀ other ∈ joins, join.covers other.target = false

theorem SeparateTargets.tail {join : Join} {joins : List Join} (separate : SeparateTargets (join :: joins)) :
    SeparateTargets joins where
  distinct := (List.nodup_cons.mp separate.distinct).2
  apart first former second latter :=
    separate.apart first (List.mem_cons_of_mem _ former) second (List.mem_cons_of_mem _ latter)

/-! ### One join -/

section Columns

variable {join : Join} {side : Side} {base row columns : Document}

theorem Side.IsProper.nodup_keys (proper : side.IsProper) : (Document.keys side.columns).Nodup := by
  cases side with
  | matched document => exact proper.1
  | unmatched columns =>
    have names : Document.keys (Side.unmatched columns).columns = columns := by
      simp [Document.keys, Side.columns, Function.comp_def]
    rw [names]
    exact proper.1

theorem Side.IsProper.isEmpty_columns (proper : side.IsProper) : side.columns.isEmpty = false := by
  cases side with
  | matched document =>
    obtain ⟨-, field, member, -⟩ := proper
    exact List.isEmpty_eq_false_iff_exists_mem.mpr ⟨field, member⟩
  | unmatched columns => simpa [Side.columns] using proper.2

/-- The columns of a side show what it is. -/
theorem Side.IsProper.foldedColumns_eq (proper : side.IsProper) :
    foldedColumns side.columns = side.shown := by
  cases side with
  | matched document =>
    obtain ⟨-, field, member, visible⟩ := proper
    refine if_neg fun empty => ?_
    rw [List.all_eq_true.mp empty field member] at visible
    cases visible
  | unmatched columns =>
    refine if_pos (List.all_eq_true.mpr fun field member => ?_)
    obtain ⟨column, -, rfl⟩ := List.mem_map.mp member
    rfl

/-- The names that were put in front of columns are taken off again. -/
theorem filterMap_underTarget (target : String) (columns : Document) :
    (underTarget target columns).filterMap (fieldUnder? target) = columns := by
  rw [underTarget, List.filterMap_map]
  have back : fieldUnder? target ∘ (fun column => (target ++ "." ++ column.1, column.2)) = some :=
    funext fun column => fieldUnder?_eq_some_iff.mpr rfl
  rw [back, List.filterMap_some]

theorem withoutJoined_underTarget (join : Join) (columns : Document) :
    withoutJoined join.target (underTarget join.target columns) = [] := by
  refine List.filter_eq_nil_iff.mpr fun field member => ?_
  obtain ⟨column, -, rfl⟩ := List.mem_map.mp member
  have covered := join.covers_under column.1
  rw [Join.covers] at covered
  simp [covered]

/-- A row without columns of a join has none to take out, -/
theorem filterMap_of_free (free : ∀ key ∈ Document.keys row, join.covers key = false) :
    row.filterMap (fieldUnder? join.target) = [] := by
  refine List.filterMap_eq_nil_iff.mpr fun field member => ?_
  have uncovered := free field.1 (List.mem_map_of_mem member)
  rw [fieldUnder?, Option.not_isSome_iff_eq_none.mp (Bool.eq_false_iff.mp uncovered)]
  rfl

/-- and loses none. -/
theorem withoutJoined_of_free (free : ∀ key ∈ Document.keys row, join.covers key = false) :
    withoutJoined join.target row = row := by
  refine List.filter_eq_self.mpr fun field member => ?_
  have uncovered := free field.1 (List.mem_map_of_mem member)
  rw [Join.covers] at uncovered
  rw [uncovered]
  rfl

end Columns

/-! ### All joins -/

section Rows

variable {sides : List (Join × Side)} {base : Document}

theorem mem_keys_flatColumns {key : String} :
    key ∈ Document.keys (flatColumns sides) ↔
      ∃ side ∈ sides, ∃ name ∈ Document.keys side.2.columns, key = side.1.target ++ "." ++ name := by
  simp only [Document.keys, flatColumns, underTarget, List.map_flatMap, List.map_map, List.mem_flatMap,
    List.mem_map, Function.comp_apply]
  constructor
  · rintro ⟨side, member, column, inside, rfl⟩
    exact ⟨side, member, column.1, ⟨column, inside, rfl⟩, rfl⟩
  · rintro ⟨side, member, name, ⟨column, inside, rfl⟩, rfl⟩
    exact ⟨side, member, column, inside, rfl⟩

/-- The other joins have no column that the first one covers. -/
theorem covers_flatColumns {join : Join} (separate : SeparateTargets (join :: sides.map Prod.fst))
    {key : String} (member : key ∈ Document.keys (flatColumns sides)) : join.covers key = false := by
  obtain ⟨side, inside, name, -, rfl⟩ := mem_keys_flatColumns.mp member
  have listed : side.1 ∈ sides.map Prod.fst := List.mem_map_of_mem inside
  have different : join.target ≠ side.1.target := fun same =>
    (List.nodup_cons.mp separate.distinct).1 (List.mem_map.mpr ⟨side.1, listed, same.symm⟩)
  exact Join.covers_under_of_apart different
    (separate.apart join List.mem_cons_self side.1 (List.mem_cons_of_mem _ listed))
    (separate.apart side.1 (List.mem_cons_of_mem _ listed) join List.mem_cons_self) name

/-- **Each join gets back its own columns**, and the base row remains. -/
theorem takeJoined_flatRow (separate : SeparateTargets (sides.map Prod.fst))
    (proper : ∀ side ∈ sides, side.2.IsProper)
    (free : ∀ key ∈ Document.keys base, ∀ side ∈ sides, side.1.covers key = false) :
    takeJoined (sides.map Prod.fst) (flatRow base sides) = (base, shownSides sides) := by
  induction sides with
  | nil => exact congrArg (·, []) (List.append_nil base)
  | cons first rest hypothesis =>
    obtain ⟨join, side⟩ := first
    obtain ⟨own, others⟩ := List.forall_mem_cons.mp proper
    have around : ∀ key ∈ Document.keys base, join.covers key = false := fun key member =>
      free key member (join, side) List.mem_cons_self
    have behind : ∀ key ∈ Document.keys (flatColumns rest), join.covers key = false := fun key member =>
      covers_flatColumns separate member
    have shape : flatRow base ((join, side) :: rest) =
        base ++ (underTarget join.target side.columns ++ flatColumns rest) := rfl
    have taken : joinedColumns join.target (flatRow base ((join, side) :: rest)) = side.columns := by
      rw [joinedColumns_eq, shape, List.filterMap_append, List.filterMap_append, filterMap_of_free around,
        filterMap_of_free behind, filterMap_underTarget, List.append_nil, List.nil_append]
      exact Document.extend_of_disjoint own.nodup_keys fun _ _ => List.not_mem_nil
    have remaining : withoutJoined join.target (flatRow base ((join, side) :: rest)) =
        flatRow base rest := by
      have parts := withoutJoined_of_free around
      have last := withoutJoined_of_free behind
      have none := withoutJoined_underTarget join side.columns
      unfold withoutJoined at parts last none ⊢
      rw [shape, List.filter_append, List.filter_append, parts, last, none, List.nil_append]
      rfl
    have onward := hypothesis separate.tail others fun key member other later =>
      free key member other (List.mem_cons_of_mem _ later)
    rw [List.map_cons, takeJoined_cons, taken, remaining, onward, own.isEmpty_columns,
      own.foldedColumns_eq]
    rfl

/-- **Folding undoes flattening.** A row is made of a base row whose identifier is not null, and of the
columns of its joins, whose targets are separate and apart from the fields of the base row. Folding it
gives the base row back, and behind it, in the order of the joins, each target with its document, or
with null where there was none. -/
theorem foldJoinedRow_flatRow (sides : List (Join × Side)) (base : Document)
    (separate : SeparateTargets (sides.map Prod.fst)) (proper : ∀ side ∈ sides, side.2.IsProper)
    (based : Document.get? idField base ≠ some .null)
    (free : ∀ key ∈ Document.keys base, ∀ side ∈ sides,
      key ≠ side.1.target ∧ side.1.covers key = false) :
    foldJoinedRow (sides.map Prod.fst) (flatRow base sides) = base ++ shownSides sides := by
  have names : Document.keys (shownSides sides) = (sides.map Prod.fst).map (·.target) := by
    simp [Document.keys, shownSides]
  have distinct : (Document.keys (shownSides sides)).Nodup := by
    rw [names]
    exact separate.distinct
  have apart : ∀ key ∈ Document.keys (shownSides sides), key ∉ Document.keys base := by
    intro key shown member
    obtain ⟨side, inside, rfl⟩ := List.mem_map.mp shown
    obtain ⟨other, listed, rfl⟩ := List.mem_map.mp inside
    exact (free _ member other listed).1 rfl
  have taken := takeJoined_flatRow separate proper fun key member side inside => (free key member side inside).2
  unfold foldJoinedRow
  cases sides with
  | nil => rfl
  | cons first rest =>
    rw [List.map_cons, List.isEmpty_cons, if_neg Bool.false_ne_true, ← List.map_cons, taken]
    -- The identifier of the base row is not null, so no column of it is left out.
    simp only
    exact Document.extend_of_disjoint distinct apart

/-- The joins of a game with its two teams and their captains' club. -/
def gameSides : List (Join × Side) :=
  [(⟨.left, "teams", "home", "id", "team"⟩, .matched [("id", .int64 3), ("lead.name", .null)]),
    (⟨.left, "teams", "away", "id", "team2"⟩, .unmatched ["id", "lead.name"]),
    (⟨.left, "clubs", "club", "id", "team_club"⟩, .matched [("id", .null), ("", .string "Rovers")])]

/-- Targets that begin with one another, names with dots, and a document whose columns are partly null. -/
theorem foldJoinedRow_flatRow_game :
    foldJoinedRow (gameSides.map Prod.fst)
        [("id", .int64 1), ("teams", .int64 2),
          ("team.id", .int64 3), ("team.lead.name", .null),
          ("team2.id", .null), ("team2.lead.name", .null),
          ("team_club.id", .null), ("team_club.", .string "Rovers")] =
      [("id", .int64 1), ("teams", .int64 2),
        ("team", .document [("id", .int64 3), ("lead.name", .null)]),
        ("team2", .null),
        ("team_club", .document [("id", .null), ("", .string "Rovers")])] := by
  have proper : ∀ side ∈ gameSides, side.2.IsProper := by
    simp only [gameSides, List.forall_mem_cons]
    exact ⟨⟨by decide, _, List.mem_cons_self, rfl⟩, ⟨by decide, by decide⟩,
      ⟨by decide, _, List.mem_cons_of_mem _ List.mem_cons_self, rfl⟩, nofun⟩
  have folded := foldJoinedRow_flatRow gameSides [("id", .int64 1), ("teams", .int64 2)]
    ⟨by decide, by decide⟩ proper nofun (by decide)
  simpa [flatRow, flatColumns, underTarget, gameSides, Side.columns, shownSides, Side.shown] using folded

end Rows

end Sql

end Polystore
