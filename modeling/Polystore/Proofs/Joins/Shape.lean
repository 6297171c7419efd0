/-
**The fields of joined rows.**

A table gives the names of a select, and folds those of each join under its target. A document store
joins whole rows first and cuts them down to what is selected; a list of columns keeps the targets of
joins, a list of distinct ones does not.

* `evaluate_select_bare`: what is selected of joined rows;
* `mem_keys_selectedRow`: the fields of a row that is cut down;
* `ownerOf?_joined`: the columns of joined tables are nested where targets stand apart;
* `joined_fields_eq_iff`: the fields of rows on both kinds of stores, and when they are the same.
-/

import Polystore.Proofs.Rows.Folded
import Polystore.Proofs.Statement.Outputs

namespace Polystore

open Memory Native

/-- The query for joined rows as they are. -/
def Query.bare (query : Query) : Query :=
  { query with columns := [], distinct := [], groups := [], offset := none, limit := none }

/-- The targets of the joins of a query. -/
def Query.targets (query : Query) : List String := query.joins.map (·.target)

/-- The fields that a query names; none if it asks for all. -/
def Query.selectedFields (query : Query) : List String :=
  if !query.distinct.isEmpty then query.distinct else query.columns.map (·.name)

/-- **Whether a joined row has what a query asks for**: every join matched, every field that is named is
there, and if none is, those of the table with the given columns are. -/
structure Query.Finds (query : Query) (starred : List String) (whole : Document) : Prop where
  matched : ∀ target ∈ query.targets, ∃ joined, Document.get? target whole = some (.document joined)
  named : ∀ name ∈ query.selectedFields, name ∈ Document.keys whole
  all : query.selectedFields = [] →
    ∀ name, name ∉ query.targets → (name ∈ Document.keys whole ↔ name ∈ starred)

/-- No target of a join stands under another one. -/
def Query.TargetsApart (query : Query) : Prop :=
  ∀ first ∈ query.joins, ∀ second ∈ query.joins, first.covers second.target = false

/-- **Whether rows have the same fields on both kinds of stores**: no selected name stands under a
target, and distinct columns, if there are some, include all targets. -/
structure Query.SharesFields (query : Query) (starred : List String) : Prop where
  uncovered : ∀ name ∈ query.outputNames starred, Sql.ownerOf? query.joins name = none
  kept : query.distinct = [] ∨ ∀ target ∈ query.targets, target ∈ query.distinct

/-! ### What is selected of joined rows -/

section Bare

variable {scope : Scope} {store : Store} {query : Query}

theorem isPostProcessed_of_joins (joined : query.joins ≠ []) : query.isPostProcessed = true := by
  rw [← Bool.not_eq_false]
  exact fun direct => joined (isPostProcessed_eq_false_iff.mp direct).1

/-- Nothing is left to the store where rows are joined. -/
theorem listedRows_bare (joined : query.joins ≠ []) (accepted : List Document) :
    listedRows query accepted = listedRows query.bare accepted := by
  have processed := isPostProcessed_of_joins joined
  have bare : query.bare.isPostProcessed = true := isPostProcessed_of_joins joined
  have stored : storedRow query = storedRow query.bare := by
    funext document
    rw [storedRow, storeProjection, processed, storedRow, storeProjection, bare]
    rfl
  rw [listedRows, listedRows, processed, bare, stored]
  rfl

theorem windowed_bare (rows : List Document) :
    windowed query.bare (selected query.bare (grouped query.bare rows)) = rows := by
  rw [windowed_eq]
  split <;> rfl

theorem windowed_nil : windowed query (selected query (grouped query [])) = [] := by
  refine List.eq_nil_iff_forall_not_mem.mpr fun row member => ?_
  obtain ⟨_, inside, _⟩ := exists_of_windowed member
  cases inside

/-- **The rows of a query with joins** are what it selects of joined rows. -/
theorem evaluate_select_bare (joined : query.joins ≠ []) :
    (engine.select scope query).evaluate store.reply =
      ((engine.select scope query.bare).evaluate store.reply).map fun rows =>
        windowed query (selected query (grouped query rows)) := by
  rw [evaluate_select, evaluate_select, ← Program.readable_map, windowed_nil]
  refine congrArg (Program.readable []) ?_
  rw [evaluate_selectRows, evaluate_selectRows, map_bind_eq]
  refine bind_congr fun table => ?_
  rw [map_bind_eq]
  refine bind_congr fun filter => ?_
  rw [map_bind_eq]
  refine bind_congr fun accepted => ?_
  rw [map_bind_eq, listedRows_bare joined]
  refine bind_congr fun rows => ?_
  rw [windowed_bare]
  rfl

end Bare

/-! ### The fields of a row that is cut down -/

section Fields

variable {query : Query} {columns : List Column} {targets starred : List String} {row whole : Document}
  {key : String}

theorem mem_keys_selectedRow : key ∈ Document.keys (selectedRow columns targets row) ↔
    (∃ column ∈ columns, (Document.lookup? column.name row).isSome ∧ column.outputName = key) ∨
      (key ∈ targets ∧ key ∈ Document.keys row) := by
  have chosen : key ∈ Document.keys (columns.filterMap fun column =>
        (Document.lookup? column.name row).map fun value => (column.outputName, value)) ↔
      ∃ column ∈ columns, (Document.lookup? column.name row).isSome ∧ column.outputName = key := by
    rw [keys_selection, List.mem_map]
    simp only [List.mem_filter, and_assoc]
  have kept : key ∈ Document.keys (targets.filterMap fun target =>
        (Document.get? target row).map fun value => (target, value)) ↔
      key ∈ targets ∧ key ∈ Document.keys row := by
    constructor
    · intro member
      obtain ⟨field, inside, rfl⟩ := List.mem_map.mp member
      obtain ⟨target, among, found⟩ := List.mem_filterMap.mp inside
      obtain ⟨value, carried, rfl⟩ := Option.map_eq_some_iff.mp found
      exact ⟨among, Document.contains_iff.mp (Option.isSome_of_eq_some carried)⟩
    · rintro ⟨among, carried⟩
      obtain ⟨value, found⟩ := Document.exists_get?_of_mem_keys carried
      refine List.mem_map.mpr ⟨(key, value), List.mem_filterMap.mpr ⟨key, among, ?_⟩, rfl⟩
      rw [found]
      rfl
  rw [selectedRow, Document.ofFields, Document.mem_keys_extend, ← chosen, ← kept]
  simp only [Document.keys, List.map_append, List.mem_append, List.map_nil, List.not_mem_nil, false_or]

/-- Columns that are found give all their output names. -/
theorem exists_outputName_iff (found : ∀ column ∈ columns, column.name ∈ Document.keys row) :
    (∃ column ∈ columns, (Document.lookup? column.name row).isSome ∧ column.outputName = key) ↔
      key ∈ columns.map Column.outputName := by
  rw [List.mem_map]
  refine exists_congr fun column => and_congr_right fun member => and_iff_right ?_
  obtain ⟨value, carried⟩ := Document.exists_get?_of_mem_keys (found column member)
  exact Option.isSome_of_eq_some (Document.lookup?_of_get? carried)

theorem Query.Finds.targets_subset (finds : query.Finds starred whole) (member : key ∈ query.targets) :
    key ∈ Document.keys whole := by
  obtain ⟨joined, found⟩ := finds.matched key member
  exact Document.contains_iff.mp (Option.isSome_of_eq_some found)

/-- **The fields of a row of a document store**, if it has what is asked for. -/
theorem mem_keys_shown (finds : query.Finds starred whole) :
    key ∈ Document.keys (shown query whole) ↔
      key ∈ query.outputNames starred ∨ (query.distinct = [] ∧ key ∈ query.targets) := by
  have named := finds.named
  have all := finds.all
  rw [Query.selectedFields] at named all
  unfold shown Query.outputNames
  cases repeated : query.distinct with
  | cons first rest =>
    rw [repeated] at named
    rw [List.isEmpty_cons, Bool.not_false, if_pos rfl, if_pos rfl, mem_keys_selectedRow,
      exists_outputName_iff]
    · simp [Column.named, Column.outputName, Function.comp_def]
    · intro column member
      obtain ⟨name, inside, rfl⟩ := List.mem_map.mp member
      exact named name inside
  | nil =>
    rw [repeated] at named all
    cases listed : query.columns with
    | cons first rest =>
      rw [listed] at named
      simp only [List.isEmpty_nil, List.isEmpty_cons, Bool.not_true, Bool.not_false, if_true,
        Bool.false_eq_true, if_false, true_and] at named ⊢
      rw [mem_keys_selectedRow, exists_outputName_iff]
      · exact or_congr_right (and_iff_left_of_imp finds.targets_subset)
      · exact fun column member => named column.name (List.mem_map_of_mem member)
    | nil =>
      rw [listed] at all
      simp only [List.isEmpty_nil, Bool.not_true, Bool.false_eq_true, if_false, if_true, true_and]
      by_cases targeted : key ∈ query.targets
      · exact iff_of_true (finds.targets_subset targeted) (.inr targeted)
      · rw [or_iff_left targeted]
        exact all rfl key targeted

end Fields

/-! ### The fields of a row of a table -/

section Owners

variable {query : Query} {starred : List String}

/-- Where targets stand apart, a column of a joined table is nested under the target of its join. -/
theorem ownerOf?_joined (apart : query.TargetsApart) {join : Join} (member : join ∈ query.joins)
    (name : String) : Sql.ownerOf? query.joins (join.target ++ "." ++ name) = some join.target := by
  have own : join.covers (join.target ++ "." ++ name) = true := by
    rw [Join.covers_iff, String.toList_append, String.toList_append, List.append_assoc]
    exact ⟨name.toList, by simp⟩
  cases found : query.joins.find? (·.covers (join.target ++ "." ++ name)) with
  | none => exact absurd own (List.find?_eq_none.mp found join member)
  | some first =>
    have among := List.mem_of_find?_eq_some found
    have covers := List.find?_some found
    rw [Sql.ownerOf?, found, Option.map_some]
    have begins := Join.covers_iff.mp covers
    have starts := Join.covers_iff.mp own
    -- One target is a beginning of the other, and the longer one would stand under the shorter.
    rcases Nat.lt_trichotomy first.target.toList.length join.target.toList.length with less | same | more
    · have under : first.covers join.target = true := by
        refine Join.covers_iff.mpr (List.prefix_of_prefix_length_le begins ?_ ?_)
        · exact (List.prefix_append _ _).trans starts
        · rw [List.length_append]
          exact less
      rw [apart first among join member] at under
      cases under
    · refine congrArg some (String.toList_inj.mp ?_)
      exact (List.prefix_of_prefix_length_le ((List.prefix_append _ _).trans begins)
        ((List.prefix_append _ _).trans starts) same.le).eq_of_length same
    · have under : join.covers first.target = true := by
        refine Join.covers_iff.mpr (List.prefix_of_prefix_length_le starts ?_ ?_)
        · exact (List.prefix_append _ _).trans begins
        · rw [List.length_append]
          exact more
      rw [apart join member first among] at under
      cases under

theorem mem_targets_of_ownerOf? {column target : String}
    (owned : Sql.ownerOf? query.joins column = some target) : target ∈ query.targets := by
  obtain ⟨join, found, rfl⟩ := Option.map_eq_some_iff.mp owned
  exact List.mem_map_of_mem (List.mem_of_find?_eq_some found)

/-- A column of a joined table is nested. -/
theorem ownerOf?_joinedNames {columns : Sql.TargetColumns} {column : String}
    (member : column ∈ columns.joinedNames query.joins) : Sql.ownerOf? query.joins column ≠ none := by
  obtain ⟨join, among, inside⟩ := List.mem_flatMap.mp member
  obtain ⟨name, _, rfl⟩ := List.mem_map.mp inside
  intro free
  have uncovered := List.find?_eq_none.mp (Option.map_eq_none_iff.mp free) join among
  refine uncovered (Join.covers_iff.mpr ⟨name.toList, ?_⟩)
  simp

end Owners

section Tables

variable {dialect : SqlDialect} {columns : Sql.TargetColumns} {query : Query} {statement : Statement}
  {starred : List String} {record : Document} {key : String}

/-- **The fields of a row of a table**: what is selected and stands under no target, and the targets of
the joins that own columns. -/
theorem mem_keys_shownRow_select (plain : query.HasPlainNames)
    (known : ∀ join ∈ query.joins, (columns.of? join.target).isSome)
    (made : Sql.selectStatement dialect columns query = .ok statement)
    (answered : ∀ name,
      name ∈ Document.keys record ↔ name ∈ Sql.outputNames starred (dialect.lexemes statement))
    (based : Document.get? idField record ≠ some .null) :
    key ∈ Document.keys (Sql.shownRow query.joins record) ↔
      (key ∈ query.outputNames starred ∧ Sql.ownerOf? query.joins key = none) ∨
        ∃ column ∈ query.outputNames starred ++ columns.joinedNames query.joins,
          Sql.ownerOf? query.joins column = some key := by
  rw [Sql.outputNames_select made plain known] at answered
  rw [Sql.mem_keys_shownRow based]
  simp only [answered]
  refine or_congr_left (and_congr_left fun free => ?_)
  rw [List.mem_append, or_iff_left fun member => ownerOf?_joinedNames member free]

theorem isSome_of_known
    (known : ∀ join ∈ query.joins, ∃ name others, columns.of? join.target = some (name :: others)) :
    ∀ join ∈ query.joins, (columns.of? join.target).isSome := by
  intro join member
  obtain ⟨name, others, listed⟩ := known join member
  exact Option.isSome_of_eq_some listed

/-- Where targets stand apart, all of them are shown. -/
theorem exists_owned_iff (apart : query.TargetsApart)
    (known : ∀ join ∈ query.joins, ∃ name others, columns.of? join.target = some (name :: others)) :
    (∃ column ∈ query.outputNames starred ++ columns.joinedNames query.joins,
      Sql.ownerOf? query.joins column = some key) ↔ key ∈ query.targets := by
  constructor
  · rintro ⟨_, _, owned⟩
    exact mem_targets_of_ownerOf? owned
  · intro member
    obtain ⟨join, among, rfl⟩ := List.mem_map.mp member
    obtain ⟨name, others, listed⟩ := known join among
    refine ⟨join.target ++ "." ++ name, List.mem_append_right _ ?_, ownerOf?_joined apart among name⟩
    refine List.mem_flatMap.mpr ⟨join, among, ?_⟩
    rw [listed]
    exact List.mem_map_of_mem List.mem_cons_self

/-- No selected name that stands under a target is a target. -/
theorem not_mem_targets_of_ownerOf? (apart : query.TargetsApart) {name target : String}
    (owned : Sql.ownerOf? query.joins name = some target) : name ∉ query.targets := by
  intro member
  obtain ⟨second, among, rfl⟩ := List.mem_map.mp member
  obtain ⟨first, found, _⟩ := Option.map_eq_some_iff.mp owned
  have covers := List.find?_some found
  rw [apart first (List.mem_of_find?_eq_some found) second among] at covers
  cases covers

theorem outputNames_of_distinct (repeated : query.distinct ≠ []) :
    query.outputNames starred = query.distinct := by
  rw [Query.outputNames, List.isEmpty_eq_false_iff.mpr repeated]
  rfl

/-- When rows have the same fields on both kinds of stores. -/
theorem same_fields_iff (apart : query.TargetsApart) :
    (∀ key, (key ∈ query.outputNames starred ∧ Sql.ownerOf? query.joins key = none) ∨
        key ∈ query.targets ↔
      key ∈ query.outputNames starred ∨ (query.distinct = [] ∧ key ∈ query.targets)) ↔
    query.SharesFields starred := by
  constructor
  · intro same
    constructor
    · intro name selected
      cases owned : Sql.ownerOf? query.joins name with
      | none => rfl
      | some target =>
        rcases (same name).mpr (.inl selected) with ⟨_, free⟩ | targeted
        · rw [owned] at free
          cases free
        · exact absurd targeted (not_mem_targets_of_ownerOf? apart owned)
    · by_cases repeated : query.distinct = []
      · exact .inl repeated
      · refine .inr fun target member => ?_
        rcases (same target).mp (.inr member) with selected | ⟨unrepeated, _⟩
        · exact outputNames_of_distinct repeated ▸ selected
        · exact absurd unrepeated repeated
  · rintro ⟨uncovered, kept⟩ key
    rw [and_iff_left_of_imp (uncovered key)]
    by_cases repeated : query.distinct = []
    · rw [and_iff_right repeated]
    · have unlisted : ¬ (query.distinct = [] ∧ key ∈ query.targets) := fun both => repeated both.1
      rw [outputNames_of_distinct repeated, or_iff_left unlisted]
      exact or_iff_left_of_imp (kept.resolve_left repeated key)

end Tables

/-- **Joined rows have the same fields on both kinds of stores unless distinct columns are selected.**

A table's row shows what is selected and stands under no target, and the targets that own columns. A row
of a document store is cut out of a joined one; if that has what is asked for, it shows what is selected,
and all targets where no distinct columns are. -/
theorem joined_fields_eq_iff {dialect : SqlDialect} {columns : Sql.TargetColumns} {query : Query}
    {statement : Statement} {starred : List String} {record : Document} {scope : Scope} {store : Store}
    {world last : World Server} {rows : List Document} (joined : query.joins ≠ [])
    (plain : query.HasPlainNames)
    (known : ∀ join ∈ query.joins, ∃ name others, columns.of? join.target = some (name :: others))
    (made : Sql.selectStatement dialect columns query = .ok statement)
    (answered : ∀ name,
      name ∈ Document.keys record ↔ name ∈ Sql.outputNames starred (dialect.lexemes statement))
    (based : Document.get? idField record ≠ some .null)
    (visible : world.state.visible? scope = some store)
    (ran : (engine.select scope query).run Server.driver world = (.finished (.ok rows), last)) :
    (∀ key, key ∈ Document.keys (Sql.shownRow query.joins record) ↔
      (key ∈ query.outputNames starred ∧ Sql.ownerOf? query.joins key = none) ∨
        ∃ column ∈ query.outputNames starred ++ columns.joinedNames query.joins,
          Sql.ownerOf? query.joins column = some key) ∧
    ∃ wholes, (engine.select scope query.bare).run Server.driver world = (.finished (.ok wholes), world) ∧
      ∀ row ∈ rows, (∃ whole ∈ wholes, row = shown query whole) ∧
        ∀ whole ∈ wholes, row = shown query whole → query.Finds starred whole →
          (∀ key, key ∈ Document.keys row ↔
            key ∈ query.outputNames starred ∨ (query.distinct = [] ∧ key ∈ query.targets)) ∧
          (query.TargetsApart →
            ((∀ key, key ∈ Document.keys (Sql.shownRow query.joins record) ↔ key ∈ Document.keys row) ↔
              query.SharesFields starred)) := by
  have table (key : String) := @mem_keys_shownRow_select _ _ _ _ _ _ key plain (isSome_of_known known) made
    answered based
  refine ⟨table, ?_⟩
  rw [run_of_reads visible (reads_select query), evaluate_select_bare joined] at ran
  obtain ⟨succeeds, _⟩ := Prod.mk.inj ran
  obtain ⟨wholes, evaluated, rfl⟩ := map_eq_ok.mp (Outcome.finished.inj succeeds)
  refine ⟨wholes, ?_, fun row member => ⟨exists_of_windowed member, ?_⟩⟩
  · rw [run_of_reads visible (reads_select query.bare), evaluated]
  · rintro whole - rfl finds
    refine ⟨fun key => mem_keys_shown finds, fun apart => ?_⟩
    rw [← same_fields_iff apart]
    refine forall_congr' fun key => ?_
    rw [table, mem_keys_shown finds, exists_owned_iff apart known]

/-- A post, its writer and a comment on it. -/
def library : Store :=
  [("posts", [[("_id", .objectId ⟨1⟩), ("title", .string "Hi"), ("author", .string "Ann")]]),
    ("people", [[("_id", .objectId ⟨2⟩), ("name", .string "Ann")]]),
    ("comments", [[("_id", .objectId ⟨3⟩), ("post", .string "Hi"), ("stars", .int32 5)]])]

/-- Posts with their writers and comments. -/
def discussed : Query :=
  { Query.ofTable "posts" with
    joins := [{ Join.keyed .left "people" "author" "name" with target := "writer" },
      Join.keyed .inner "comments" "title" "post"] }

/-- The titles of posts under another name. -/
def headlines : Query := { discussed with columns := [⟨"title", some "headline"⟩] }

/-- The titles of posts, each once. -/
def titles : Query := { discussed with distinct := ["title"] }

/-- The columns of the joined tables. -/
def discussedColumns : Sql.TargetColumns :=
  [("writer", ["id", "name"]), ("comments", ["id", "post", "stars"])]

theorem discussedColumns_known : ∀ join ∈ discussed.joins,
    ∃ name others, discussedColumns.of? join.target = some (name :: others) :=
  List.forall_mem_cons.mpr ⟨⟨_, _, rfl⟩, List.forall_mem_singleton.mpr ⟨_, _, rfl⟩⟩

/-- What a table answers for the titles of posts, under a name. -/
def discussedRecord (name : String) : Document :=
  [(name, .string "Hi"), ("writer.id", .string "2"), ("writer.name", .string "Ann"),
    ("comments.id", .string "3"), ("comments.post", .string "Hi"), ("comments.stars", .int64 5)]

/-- The post with what is joined to it. -/
def discussedRow : Document :=
  [("id", .string "000000000000000000000001"), ("title", .string "Hi"), ("author", .string "Ann"),
    ("writer", .document [("id", .string "000000000000000000000002"), ("name", .string "Ann")]),
    ("comments", .document [("id", .string "000000000000000000000003"), ("post", .string "Hi"),
      ("stars", .int32 5)])]

/-- A list of columns keeps the targets of both joins. -/
theorem joined_fields_eq_headlines :
    ∃ statement, Sql.selectStatement .sqlite discussedColumns headlines = .ok statement ∧
      Sql.outputNames ["id", "title", "author"] (SqlDialect.sqlite.lexemes statement) =
        Document.keys (discussedRecord "headline") ∧
      ∃ row, (engine.select .connection headlines).run Server.driver ⟨⟨0, 0⟩, ⟨library, none, 0⟩⟩ =
          (.finished (.ok [row]), ⟨⟨0, 0⟩, ⟨library, none, 0⟩⟩) ∧
        Document.keys row = ["headline", "writer", "comments"] ∧
        ∀ key, key ∈ Document.keys (Sql.shownRow headlines.joins (discussedRecord "headline")) ↔
          key ∈ Document.keys row := by
  have plain : headlines.HasPlainNames :=
    ⟨fun column member => List.mem_singleton.mp member ▸ ⟨rfl, by decide⟩, nofun⟩
  obtain ⟨statement, made⟩ :
      ∃ statement, Sql.selectStatement .sqlite discussedColumns headlines = .ok statement := ⟨_, rfl⟩
  have names : Sql.outputNames ["id", "title", "author"] (SqlDialect.sqlite.lexemes statement) =
      Document.keys (discussedRecord "headline") :=
    (Sql.outputNames_select made plain (isSome_of_known discussedColumns_known)).trans rfl
  refine ⟨statement, made, names, _, rfl, rfl, ?_⟩
  obtain ⟨_, wholes, bare, each⟩ := @joined_fields_eq_iff .sqlite discussedColumns headlines statement
    ["id", "title", "author"] (discussedRecord "headline") .connection library
    ⟨⟨0, 0⟩, ⟨library, none, 0⟩⟩ ⟨⟨0, 0⟩, ⟨library, none, 0⟩⟩ _ (List.cons_ne_nil _ _) plain
    discussedColumns_known made (fun name => by rw [names]) nofun rfl rfl
  obtain rfl : wholes = [discussedRow] :=
    Except.ok.inj (Outcome.finished.inj (Prod.mk.inj (bare.symm.trans rfl)).1)
  have finds : headlines.Finds ["id", "title", "author"] discussedRow := {
    matched := List.forall_mem_cons.mpr ⟨⟨_, rfl⟩, List.forall_mem_singleton.mpr ⟨_, rfl⟩⟩
    named := List.forall_mem_singleton.mpr (by decide)
    all := nofun }
  have apart : headlines.TargetsApart := by
    unfold Query.TargetsApart
    decide
  exact (((each _ List.mem_cons_self).2 _ List.mem_cons_self rfl finds).2 apart).mpr
    ⟨List.forall_mem_singleton.mpr rfl, .inl rfl⟩

/-- Distinct columns lose the targets of joins in a document store, but not in a table. -/
theorem joined_fields_ne_titles :
    ∃ statement, Sql.selectStatement .sqlite discussedColumns titles = .ok statement ∧
      Sql.outputNames ["id", "title", "author"] (SqlDialect.sqlite.lexemes statement) =
        Document.keys (discussedRecord "title") ∧
      Document.keys (Sql.shownRow titles.joins (discussedRecord "title")) =
        ["title", "writer", "comments"] ∧
      (engine.select .connection titles.bare).run Server.driver ⟨⟨0, 0⟩, ⟨library, none, 0⟩⟩ =
        (.finished (.ok [discussedRow]), ⟨⟨0, 0⟩, ⟨library, none, 0⟩⟩) ∧
      titles.Finds ["id", "title", "author"] discussedRow ∧
      (engine.select .connection titles).run Server.driver ⟨⟨0, 0⟩, ⟨library, none, 0⟩⟩ =
        (.finished (.ok [[("title", .string "Hi")]]), ⟨⟨0, 0⟩, ⟨library, none, 0⟩⟩) := by
  have plain : titles.HasPlainNames :=
    ⟨nofun, fun name member => List.mem_singleton.mp member ▸ ⟨rfl, by decide⟩⟩
  obtain ⟨statement, made⟩ :
      ∃ statement, Sql.selectStatement .sqlite discussedColumns titles = .ok statement := ⟨_, rfl⟩
  have names : Sql.outputNames ["id", "title", "author"] (SqlDialect.sqlite.lexemes statement) =
      Document.keys (discussedRecord "title") :=
    (Sql.outputNames_select made plain (isSome_of_known discussedColumns_known)).trans rfl
  refine ⟨statement, made, names, rfl, rfl, ?_, rfl⟩
  exact {
    matched := List.forall_mem_cons.mpr ⟨⟨_, rfl⟩, List.forall_mem_singleton.mpr ⟨_, rfl⟩⟩
    named := List.forall_mem_singleton.mpr (by decide)
    all := nofun }

end Polystore
