/-
**The names of the columns that a select answers with.**

They are read from its text: the first part of a select is a list between commas, and a column is named
by the last word of its item. A star stands for the columns of the table in front of it.

* `names_list`: the names of a list of selections;
* `exists_parts_statement`: a select begins with its list, whatever its conditions are;
* `outputNames_select`: so its names are the selected ones, and those of the joined tables.
-/

import Polystore.Proofs.Statement.Parts

namespace Polystore

/-- The names of the columns that a query selects of its base table, which has the given ones. -/
def Query.outputNames (starred : List String) (query : Query) : List String :=
  if !query.distinct.isEmpty then query.distinct
  else if query.columns.isEmpty then starred
  else query.columns.map Column.outputName

/-- A name that is written as one word: it holds no dot, and it is not the star. -/
structure IsPlainName (name : String) : Prop where
  undotted : Text.hasChar '.' name = false
  single : name ≠ "*"

/-- The columns of a query have plain names. -/
structure Query.HasPlainNames (query : Query) : Prop where
  columns : ∀ column ∈ query.columns, IsPlainName column.name
  distinct : ∀ name ∈ query.distinct, IsPlainName name

namespace Sql

/-- The names that known columns of joined tables are selected under. -/
def TargetColumns.joinedNames (columns : TargetColumns) (joins : List Join) : List String :=
  joins.flatMap fun join => ((columns.of? join.target).getD []).map (join.target ++ "." ++ ·)

/-- Whether a lexeme is the comma between items. -/
def Lexeme.isComma : Lexeme → Bool
  | .sign ',' => true
  | _ => false

/-- The names of the columns that an item of a list gives: its last one, or the given ones if it ends in
a star. -/
def itemNames (starred : List String) (item : List Lexeme) : List String :=
  match item.getLast? with
  | some (.name name) => [name]
  | some (.sign '*') => starred
  | _ => []

/-- **The names of the columns that a select answers with**, where a star stands for the given ones. -/
def outputNames (starred : List String) (lexemes : List Lexeme) : List String :=
  match parts lexemes with
  | (.columns, list) :: _ => (list.splitOnP Lexeme.isComma).flatMap (itemNames starred)
  | _ => []

/-- The names of the columns that a selection gives. -/
def Selection.names (starred : List String) (selection : Selection) : List String :=
  match selection.shownAs with
  | some shown => [shown]
  | none => if selection.path.getLast? = some "*" then starred else selection.path.getLast?.toList

/-! ### Items -/

section Items

variable {starred : List String} {items : List (List Lexeme)}

/-- Items without commas are what their list is cut into. -/
theorem splitOnP_commas (present : items ≠ [])
    (each : ∀ item ∈ items, ∀ lexeme ∈ item, lexeme.isComma = false) :
    (commas items).splitOnP Lexeme.isComma = items := by
  induction items with
  | nil => exact absurd rfl present
  | cons first rest hypothesis =>
    have own := each first List.mem_cons_self
    cases rest with
    | nil => exact List.splitOnP_eq_singleton own
    | cons second others =>
      rw [commas, List.splitOnP_append_cons_of_forall_mem own _ rfl]
      · rw [hypothesis (List.cons_ne_nil _ _) fun item member => each item (List.mem_cons_of_mem _ member)]
      · exact nofun

/-- What stands before a list stands before its first item. -/
theorem append_commas (before first : List Lexeme) (rest : List (List Lexeme)) :
    before ++ commas (first :: rest) = commas ((before ++ first) :: rest) := by
  cases rest with
  | nil => rfl
  | cons second others => exact (List.append_assoc _ _ _).symm

/-- What gives no name gives an item no other one. -/
theorem itemNames_append {before : List Lexeme} (unnamed : itemNames starred before = [])
    (item : List Lexeme) : itemNames starred (before ++ item) = itemNames starred item := by
  unfold itemNames at *
  rw [List.getLast?_append]
  cases item.getLast? with
  | none => exact unnamed
  | some last => rfl

theorem isComma_path {segments : List String} :
    ∀ lexeme ∈ pathLexemes segments, lexeme.isComma = false := by
  have single (segment : String) : (segmentLexeme segment).isComma = false := by
    unfold segmentLexeme
    split <;> rfl
  induction segments with
  | nil => nofun
  | cons first rest hypothesis =>
    cases rest with
    | nil =>
      intro lexeme member
      obtain rfl := List.mem_singleton.mp member
      exact single first
    | cons second others =>
      intro lexeme member
      rcases List.mem_cons.mp member with rfl | member
      · exact single first
      · rcases List.mem_cons.mp member with rfl | member
        · rfl
        · exact hypothesis lexeme member

theorem isComma_selection (selection : Selection) :
    ∀ lexeme ∈ selection.lexemes, lexeme.isComma = false := by
  intro lexeme member
  rcases List.mem_append.mp member with inPath | member
  · exact isComma_path lexeme inPath
  · cases shown : selection.shownAs with
    | none =>
      rw [shown] at member
      cases member
    | some name =>
      rw [shown] at member
      rcases List.mem_cons.mp member with rfl | member
      · rfl
      · obtain rfl := List.mem_singleton.mp member
        rfl

theorem getLast?_path (segments : List String) :
    (pathLexemes segments).getLast? = segments.getLast?.map segmentLexeme := by
  induction segments with
  | nil => rfl
  | cons first rest hypothesis =>
    cases rest with
    | nil => rfl
    | cons second others =>
      show (segmentLexeme first :: .sign '.' :: pathLexemes (second :: others)).getLast? = _
      rw [List.getLast?_cons_cons, List.getLast?_cons_cons, ← hypothesis]
      cases others <;> rfl

/-- **The name that a selection gives a column** is its last word. -/
theorem itemNames_selection (selection : Selection) :
    itemNames starred selection.lexemes = selection.names starred := by
  rw [itemNames, Selection.lexemes, Selection.names]
  cases selection.shownAs with
  | some shown =>
    rw [Option.elim_some, List.getLast?_append]
    rfl
  | none =>
    rw [Option.elim_none, List.append_nil, getLast?_path]
    cases selection.path.getLast? with
    | none => rfl
    | some last =>
      by_cases star : last = "*"
      · rw [star]
        rfl
      · have other : some last ≠ some "*" := fun same => star (Option.some.inj same)
        rw [Option.map_some, segmentLexeme, if_neg star, if_neg other]
        rfl

/-- **The names of a list** are those of its selections, also behind a word that gives none. -/
theorem names_list {before : List Lexeme} {selections : List Selection}
    (unnamed : itemNames starred before = []) (silent : ∀ lexeme ∈ before, lexeme.isComma = false)
    (present : selections ≠ []) :
    ((before ++ commas (selections.map Selection.lexemes)).splitOnP Lexeme.isComma).flatMap
        (itemNames starred) =
      selections.flatMap (Selection.names starred) := by
  obtain ⟨first, rest, rfl⟩ := List.exists_cons_of_ne_nil present
  rw [List.map_cons, append_commas, splitOnP_commas (List.cons_ne_nil _ _), List.flatMap_cons,
    itemNames_append unnamed, itemNames_selection, List.flatMap_map, List.flatMap_cons]
  · exact congrArg _ (List.flatMap_congr fun selection _ => itemNames_selection selection)
  · intro item member lexeme inside
    rcases List.mem_cons.mp member with rfl | member
    · rcases List.mem_append.mp inside with ahead | inside
      · exact silent lexeme ahead
      · exact isComma_selection first lexeme inside
    · obtain ⟨selection, _, rfl⟩ := List.mem_map.mp member
      exact isComma_selection selection lexeme inside

end Items

/-! ### The list of a select -/

section Lists

variable {dialect : SqlDialect} {columns : TargetColumns} {query : Query} {statement : Statement}
  {starred : List String}

/-- Behind the parts that a text begins with, anything may follow. -/
theorem parts_gathered_append {part next : Part} {own other : List Lexeme} (plain : IsPlain own)
    (sections : List (Part × List Lexeme)) (rest : List Lexeme) :
    ∃ others, parts (gathered ((part, own) :: (next, other) :: sections) ++ rest) =
      (part, own) :: others := by
  have whole : gathered ((part, own) :: (next, other) :: sections) ++ rest =
      part.opening :: (own ++ next.opening :: (other ++ gathered sections ++ rest)) := by
    simp [gathered]
  have behind : (cut (next.opening :: (other ++ gathered sections ++ rest))).1 = [] := by
    rw [cut, part?_opening]
  refine ⟨(cut (next.opening :: (other ++ gathered sections ++ rest))).2, ?_⟩
  rw [whole, parts, cut, part?_opening, cut_append plain, behind, List.append_nil]

/-- What follows the sources of a select begins with a delimiter, whatever it is. -/
theorem follows_condition (scope : ColumnScope) {clauses : List Clause} {condition : List Fragment}
    (written : whereFragments scope clauses = .ok condition) (groups : List String) (orders : List Order)
    (limit offset : Option Nat) (count : Nat) :
    let rest := Fragment.render scope.dialect.placeholder count (condition ++
      [.text (groupText scope groups ++ orderText scope orders ++ windowText scope.dialect limit offset)])
    rest = "" ∨ rest.toList.head?.any Lexeme.isDelimiter = true := by
  intro rest
  unfold whereFragments at written
  split at written
  · obtain rfl := Except.ok.inj written
    have stands := ((stands_groupText scope groups).append (stands_orderText scope orders)).append
      (stands_windowText limit offset)
    have alone : rest = groupText scope groups ++ orderText scope orders ++
        windowText scope.dialect limit offset := String.append_empty
    rw [alone]
    exact stands.follows
  · obtain ⟨inner, _, rfl⟩ := map_eq_ok.mp written
    exact render_startDelimited rfl count

/-- **A select begins with the list of its selections**, whatever its conditions are. -/
theorem exists_parts_statement (made : selectStatement dialect columns query = .ok statement) :
    ∃ scope others, columnScope dialect query = .ok scope ∧
      parts (dialect.lexemes statement) =
        (.columns, (if query.distinct.isEmpty then [] else [word "DISTINCT"])
          ++ commas ((selected scope columns query).map Selection.lexemes)) :: others := by
  obtain ⟨pieces, chosen, rfl⟩ := map_eq_ok.mp made
  obtain ⟨table, _, chosen⟩ := bind_eq_ok.mp chosen
  obtain ⟨scope, inScope, chosen⟩ := bind_eq_ok.mp chosen
  obtain ⟨condition, written, whole⟩ := bind_eq_ok.mp chosen
  obtain rfl : scope.dialect = dialect := by
    obtain ⟨_, _, rfl⟩ := map_eq_ok.mp inScope
    rfl
  obtain rfl := Except.ok.inj whole
  have head := reads_head scope columns table query
  have plain : IsPlain ((if query.distinct.isEmpty then [] else [word "DISTINCT"])
      ++ commas ((selected scope columns query).map Selection.lexemes)) :=
    isPlain_selectParts scope columns table query isPlain_nil _ List.mem_cons_self
  -- Raw conditions may hold anything, but they come behind the list.
  obtain ⟨more, read⟩ := head.exists_append
    (follows_condition scope written query.groups query.orders query.limit query.offset 0)
  obtain ⟨others, begins⟩ := parts_gathered_append plain _ _
  refine ⟨scope, others, inScope, ?_⟩
  rw [SqlDialect.lexemes, SqlDialect.statement, List.cons_append, Fragment.render, read,
    resolved_append head.unplaced]
  exact begins

/-- A select selects something of its base table. -/
theorem selected_ne_nil (scope : ColumnScope) (columns : TargetColumns) (query : Query) :
    selected scope columns query ≠ [] := by
  have based : baseSelected scope query ≠ [] := by
    unfold baseSelected
    split
    · rename_i distinct
      rw [ne_eq, List.map_eq_nil_iff]
      rintro empty
      rw [empty] at distinct
      cases distinct
    · split
      · exact List.cons_ne_nil _ _
      · rename_i listed
        rw [ne_eq, List.map_eq_nil_iff]
        rintro empty
        rw [empty] at listed
        exact listed rfl
  exact List.append_ne_nil_of_left_ne_nil based _

/-- **The names that a select answers with** are those of its selections. -/
theorem outputNames_statement (starred : List String)
    (made : selectStatement dialect columns query = .ok statement) :
    ∃ scope, columnScope dialect query = .ok scope ∧
      outputNames starred (dialect.lexemes statement) =
        (selected scope columns query).flatMap (Selection.names starred) := by
  obtain ⟨scope, others, inScope, begins⟩ := exists_parts_statement made
  refine ⟨scope, inScope, ?_⟩
  have opened : itemNames starred (if query.distinct.isEmpty then [] else [word "DISTINCT"]) = [] ∧
      ∀ lexeme ∈ (if query.distinct.isEmpty then [] else [word "DISTINCT"]),
        lexeme.isComma = false := by
    split
    · exact ⟨rfl, nofun⟩
    · exact ⟨rfl, fun lexeme member => List.mem_singleton.mp member ▸ rfl⟩
  rw [outputNames, begins]
  exact names_list opened.1 opened.2 (selected_ne_nil scope columns query)

/-- The last segment of a path behind a table is that of the path. -/
theorem getLast?_pathOf_append (table name : String) :
    (pathOf (table ++ "." ++ name)).getLast? = (pathOf name).getLast? := by
  have whole : (table ++ "." ++ name).toList = table.toList ++ '.' :: name.toList := by
    simp [String.toList_append]
  rw [pathOf, Text.segmentsOf, whole, Text.segments_append, List.map_append,
    List.getLast?_append_of_ne_nil]
  · rfl
  · exact fun empty => Text.segments_ne_nil _ _ (List.map_eq_nil_iff.mp empty)

/-- The last segment that an undotted column is written with is its name. -/
theorem getLast?_path_of_undotted {name : String} (undotted : Text.hasChar '.' name = false)
    (scope : ColumnScope) : (scope.path name).getLast? = some name := by
  have own : (pathOf name).getLast? = some name := by
    rw [pathOf, Text.segmentsOf_eq_singleton undotted]
    rfl
  unfold ColumnScope.path
  split
  · exact (getLast?_pathOf_append scope.base name).trans own
  · exact own

/-- A selected column gives its own name, unless it is a star. -/
theorem names_path {name : String} (plain : IsPlainName name) (scope : ColumnScope) :
    (Selection.mk (scope.path name) none).names starred = [name] := by
  have other : some name ≠ some "*" := fun same => plain.single (Option.some.inj same)
  rw [Selection.names, getLast?_path_of_undotted plain.undotted, if_neg other]
  rfl

theorem names_baseSelected (scope : ColumnScope) (plain : query.HasPlainNames) :
    (baseSelected scope query).flatMap (Selection.names starred) = query.outputNames starred := by
  unfold baseSelected Query.outputNames
  split
  · rw [List.flatMap_map]
    refine Eq.trans (List.flatMap_congr fun name member => ?_) (List.flatMap_singleton' query.distinct)
    exact names_path (plain.distinct name member) scope
  · split
    · have star : (Selection.mk (if query.hasJoins then pathOf (scope.base ++ ".*") else ["*"])
          none).names starred = starred := by
        have last : (if query.hasJoins then pathOf (scope.base ++ ".*") else ["*"]).getLast? =
            some "*" := by
          split
          · have under : scope.base ++ ".*" = scope.base ++ "." ++ "*" := by rw [String.append_assoc]; rfl
            rw [under, getLast?_pathOf_append]
            rfl
          · rfl
        rw [Selection.names, last, if_pos rfl]
      rw [List.flatMap_singleton, star]
    · rw [List.flatMap_map, List.map_eq_flatMap]
      refine List.flatMap_congr fun column member => ?_
      cases shown : column.shownAs with
      | some name =>
        rw [Column.outputName, shown]
        rfl
      | none =>
        rw [names_path (plain.columns column member), Column.outputName, shown]
        rfl

theorem names_joinSelected (known : ∀ join ∈ query.joins, (columns.of? join.target).isSome) :
    (query.joins.flatMap (joinSelected columns)).flatMap (Selection.names starred) =
      columns.joinedNames query.joins := by
  rw [List.flatMap_assoc]
  refine List.flatMap_congr fun join member => ?_
  obtain ⟨names, listed⟩ := Option.isSome_iff_exists.mp (known join member)
  rw [joinSelected, listed, List.flatMap_map, Option.getD_some, List.map_eq_flatMap]
  rfl

/-- **The names that a select answers with**: the selected ones, and those of the joined tables under
their targets. -/
theorem outputNames_select (made : selectStatement dialect columns query = .ok statement)
    (plain : query.HasPlainNames)
    (known : ∀ join ∈ query.joins, (columns.of? join.target).isSome) :
    outputNames starred (dialect.lexemes statement) =
      query.outputNames starred ++ columns.joinedNames query.joins := by
  obtain ⟨scope, _, names⟩ := outputNames_statement starred made
  rw [names, selected, List.flatMap_append, names_baseSelected scope plain, names_joinSelected known]

end Lists

end Sql

end Polystore
