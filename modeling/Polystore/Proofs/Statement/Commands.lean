/-
**The bindings of statements and the places of their values.**

`Command` gathers the statements that read and change rows. Each is a `Frame` around its conditions, and
binds the values of the fields that it writes before those of the conditions.

* `statement_iff`: when a command has a statement;
* `bindings_statement`: what the statement binds;
* `places_of_bindings`: the places in its text are those of its bindings, in order.
-/

import Polystore.Proofs.Statement.Bindings

namespace Polystore

open Sql

namespace Sql

/-- A statement that reads or changes rows. -/
inductive Command where
  | select (columns : TargetColumns) (query : Query)
  | count (columns : TargetColumns) (query : Query)
  | insert (table : String) (document : Document)
  | update (query : Query) (values : Document)
  | delete (query : Query)
  deriving Repr

namespace Command

/-- The statement of a command. -/
def statement (dialect : SqlDialect) : Command → Except DatabaseError Statement
  | select columns query => selectStatement dialect columns query
  | count columns query => countStatement dialect columns query
  | insert table document => insertStatement dialect table document
  | update query values => updateStatement dialect query values
  | delete query => deleteStatement dialect query

/-- The clauses of a command. -/
def clauses : Command → List Clause
  | select _ query | count _ query | update query _ | delete query => query.clauses
  | insert _ _ => []

/-- The fields that a command writes. -/
def fields : Command → Document
  | insert _ document => Document.withoutUndefined document
  | update _ values => Document.withoutUndefined (Document.withoutId values)
  | select _ _ | count _ _ | delete _ => []

/-- Whether a command has what its statement needs: a table, no joins where rows are changed, and
something to write. -/
def isComplete : Command → Bool
  | select _ query | count _ query => query.requireTable.toBool
  | insert table document => !(insert table document).fields.isEmpty
  | update query values =>
    query.requireTable.toBool && !query.hasJoins && !(update query values).fields.isEmpty
  | delete query => query.requireTable.toBool && !query.hasJoins

end Command

section Texts

variable {dialect : SqlDialect} {scope : ColumnScope}

theorem quiet_selectedColumn (column : Column) : Quiet scope.dialect (selectedColumn scope column) := by
  unfold selectedColumn
  split
  · exact ((quiet_column _).append (quiet_words (by decide))).append (quiet_quoteWhole _)
  · exact quiet_column _

theorem quiet_baseSelections (query : Query) :
    ∀ text ∈ baseSelections scope query, Quiet scope.dialect text := by
  unfold baseSelections
  split
  · exact List.forall_mem_map.mpr fun column _ => quiet_column column
  · split
    · refine List.forall_mem_singleton.mpr ?_
      split
      · exact quiet_quote _
      · exact quiet_words (by decide)
    · exact List.forall_mem_map.mpr fun column _ => quiet_selectedColumn column

theorem quiet_joinSelections (columns : TargetColumns) (join : Join) :
    ∀ text ∈ joinSelections dialect columns join, Quiet dialect text := by
  unfold joinSelections
  split
  · refine List.forall_mem_map.mpr fun name _ => ?_
    exact ((quiet_quote _).append (quiet_words (by decide))).append (quiet_quoteWhole _)
  · exact List.forall_mem_singleton.mpr (quiet_quote _)

theorem quiet_joinText (join : Join) : Quiet scope.dialect (joinText scope join) := by
  have shown : Quiet scope.dialect
      (if join.target = join.table then "" else " AS " ++ scope.dialect.quote join.target) := by
    split
    · exact quiet_empty
    · exact (quiet_words (by decide)).append (quiet_quote _)
  have kind : Quiet scope.dialect join.kind.sql := by
    cases join.kind <;> exact quiet_words (by decide)
  refine ((((((quiet_words (by decide)).append kind).append (quiet_words (by decide))).append
    (quiet_quote _)).append shown).append ?_)
  split
  · exact quiet_empty
  · exact (((quiet_words (by decide)).append (quiet_quote _)).append (quiet_words (by decide))).append
      (quiet_quote _)

theorem quiet_groupText (groups : List String) : Quiet scope.dialect (groupText scope groups) := by
  unfold groupText
  split
  · exact quiet_empty
  · refine (quiet_words (by decide)).append (quiet_joined (quiet_words (by decide)) ?_)
    exact List.forall_mem_map.mpr fun column _ => quiet_column column

theorem quiet_orderText (orders : List Order) : Quiet scope.dialect (orderText scope orders) := by
  unfold orderText
  split
  · exact quiet_empty
  · refine (quiet_words (by decide)).append (quiet_joined (quiet_words (by decide)) ?_)
    refine List.forall_mem_map.mpr fun order _ => ?_
    have direction : Quiet scope.dialect order.direction.sql := by
      cases order.direction <;> exact quiet_words (by decide)
    exact ((quiet_column _).append (quiet_words (by decide))).append direction

theorem quiet_windowText (limit offset : Option Nat) : Quiet dialect (windowText dialect limit offset) := by
  have limited (number : Nat) : Quiet dialect (" LIMIT " ++ toString number) :=
    (quiet_words (by decide)).append (quiet_toString number)
  unfold windowText
  split
  · exact ((limited _).append (quiet_words (by decide))).append (quiet_toString _)
  · exact limited _
  · split
    · rename_i unbounded known
      have quiet : Quiet dialect unbounded := by
        cases dialect <;> cases known <;> exact quiet_words (by decide)
      exact (((quiet_words (by decide)).append quiet).append (quiet_words (by decide))).append
        (quiet_toString _)
    · exact (quiet_words (by decide)).append (quiet_toString _)
  · exact quiet_empty

end Texts

/-- A statement around its conditions: numbered pieces that bind the given values in front of them, and
numbered pieces without values behind. -/
structure Frame (dialect : SqlDialect) (values : List Value) (opening closing : List Fragment) :
    Prop where
  opened : Numbered dialect opening
  written : Fragment.values opening = values
  closed : Numbered dialect closing
  opens : Opens dialect closing
  unvalued : Fragment.values closing = []

section Frames

variable {dialect : SqlDialect} {query : Query} {table : String}

theorem numbered_assignments (isFirst : Bool) (fields : Document) :
    Numbered dialect (assignments dialect isFirst fields) := by
  induction fields generalizing isFirst with
  | nil => exact numbered_nil
  | cons field rest hypothesis =>
    obtain ⟨key, value⟩ := field
    have opens : Opens dialect (assignments dialect false rest) := by
      cases rest with
      | nil => exact opens_nil
      | cons next others =>
        rw [assignments, if_neg Bool.false_ne_true]
        exact opens_text_cons (beginsApart_append (beginsApart_append (by decide) _) _)
    refine ((hypothesis false).value opens value).text ?_
    refine Quiet.append (.append ?_ (quiet_quote key)) (quiet_words (by decide))
    cases isFirst <;> exact quiet_words (by decide)

theorem values_assignments (isFirst : Bool) (fields : Document) :
    Fragment.values (assignments dialect isFirst fields) = fields.map Prod.snd := by
  induction fields generalizing isFirst with
  | nil => rfl
  | cons field rest hypothesis =>
    rw [assignments, Fragment.values, Fragment.values, hypothesis, List.map_cons]

/-- A bound table gives the scope of columns. -/
theorem exists_columnScope (dialect : SqlDialect) (bound : query.requireTable = .ok table) :
    ∃ scope, columnScope dialect query = .ok scope ∧ scope.dialect = dialect := by
  unfold Query.requireTable at bound
  unfold columnScope baseName
  cases known : query.table with
  | none =>
    rw [known] at bound
    cases bound
  | some reference => exact ⟨_, rfl, rfl⟩

theorem delimited_words {text : String} (begins : beginsApart text = true) :
    Delimited dialect text.toList := by
  have whole : Delimited dialect (text.toList ++ []) := delimited_of_beginsApart begins []
  rwa [List.append_nil] at whole

/-- What follows the conditions of a select begins with a space, if it is there. -/
theorem delimited_ending (scope : ColumnScope) (query : Query) :
    Delimited dialect (groupText scope query.groups ++ orderText scope query.orders
      ++ windowText dialect query.limit query.offset).toList := by
  rw [String.toList_append, String.toList_append]
  refine delimited_append (delimited_append ?_ ?_) ?_
  · unfold groupText
    split
    · exact delimited_nil
    · exact delimited_words (beginsApart_append (by decide) _)
  · unfold orderText
    split
    · exact delimited_nil
    · exact delimited_words (beginsApart_append (by decide) _)
  · unfold windowText
    split
    · exact delimited_words (beginsApart_append (beginsApart_append (beginsApart_append (by decide) _) _) _)
    · exact delimited_words (beginsApart_append (by decide) _)
    · split
      · exact delimited_words
          (beginsApart_append (beginsApart_append (beginsApart_append (by decide) _) _) _)
      · exact delimited_words (beginsApart_append (by decide) _)
    · exact delimited_nil

theorem quiet_opening (scope : ColumnScope) (columns : TargetColumns) (query : Query)
    (table : String) :
    Quiet scope.dialect ("SELECT " ++ (if query.distinct.isEmpty then "" else "DISTINCT ")
      ++ Text.joined ", "
        (baseSelections scope query ++ query.joins.flatMap (joinSelections scope.dialect columns))
      ++ " FROM " ++ scope.dialect.quote table
      ++ (if scope.base = table then "" else " AS " ++ scope.dialect.quote scope.base)
      ++ String.join (query.joins.map (joinText scope))) := by
  have distinct : Quiet scope.dialect (if query.distinct.isEmpty then "" else "DISTINCT ") := by
    split <;> exact quiet_words (by decide)
  have selections : Quiet scope.dialect (Text.joined ", "
      (baseSelections scope query ++ query.joins.flatMap (joinSelections scope.dialect columns))) := by
    refine quiet_joined (quiet_words (by decide)) (List.forall_mem_append.mpr ⟨?_, ?_⟩)
    · exact quiet_baseSelections query
    · intro text member
      obtain ⟨join, _, inside⟩ := List.mem_flatMap.mp member
      exact quiet_joinSelections columns join text inside
  have shown : Quiet scope.dialect
      (if scope.base = table then "" else " AS " ++ scope.dialect.quote scope.base) := by
    split
    · exact quiet_empty
    · exact (quiet_words (by decide)).append (quiet_quote _)
  have joins : Quiet scope.dialect (String.join (query.joins.map (joinText scope))) :=
    quiet_join (List.forall_mem_map.mpr fun join _ => quiet_joinText join)
  exact ((((((quiet_words (by decide)).append distinct).append selections).append
    (quiet_words (by decide))).append (quiet_quote table)).append shown).append joins

/-- **A select of a bound table** is a frame around its conditions. -/
theorem exists_frame_select (dialect : SqlDialect) (columns : TargetColumns)
    (bound : query.requireTable = .ok table) :
    ∃ scope opening closing, scope.dialect = dialect ∧ Frame dialect [] opening closing ∧
      selectFragments dialect columns query =
        (whereFragments scope query.clauses).map fun condition => opening ++ condition ++ closing := by
  obtain ⟨scope, known, rfl⟩ := exists_columnScope dialect bound
  refine ⟨scope, _, _, rfl, ⟨numbered_text (quiet_opening scope columns query table), rfl,
    numbered_text (((quiet_groupText query.groups).append (quiet_orderText query.orders)).append
      (quiet_windowText query.limit query.offset)),
    opens_text (delimited_ending scope query) opens_nil, rfl⟩, ?_⟩
  unfold selectFragments
  rw [bound, known]
  show (whereFragments scope query.clauses >>= fun condition => .ok _) = _
  cases whereFragments scope query.clauses <;> rfl

/-- A count is a frame around the conditions of the select that it counts. -/
theorem exists_frame_count (dialect : SqlDialect) (columns : TargetColumns)
    (bound : query.requireTable = .ok table) :
    ∃ scope opening closing, scope.dialect = dialect ∧ Frame dialect [] opening closing ∧
      countStatement dialect columns query =
        (whereFragments scope query.clauses).map fun condition =>
          dialect.statement (opening ++ condition ++ closing) := by
  have counted : query.forCount.requireTable = .ok table := bound
  obtain ⟨scope, opening, closing, same, frame, made⟩ := exists_frame_select dialect columns counted
  have clauses : query.forCount.clauses = query.clauses := rfl
  rw [clauses] at made
  have counting : Quiet dialect ("SELECT COUNT(*) AS " ++ dialect.quote "aggregate" ++ " FROM (") :=
    ((quiet_words (by decide)).append (quiet_quote _)).append (quiet_words (by decide))
  have named : Numbered dialect [Fragment.text (") AS " ++ dialect.quote "count_source")] :=
    numbered_text ((quiet_words (by decide)).append (quiet_quote _))
  have opens : Opens dialect [Fragment.text (") AS " ++ dialect.quote "count_source")] :=
    opens_text_cons (beginsApart_append (by decide) _)
  refine ⟨scope, _ :: opening, closing ++ [_], same, ⟨frame.opened.text counting, frame.written,
    frame.closed.append named opens, opens_append frame.opens opens, ?_⟩, ?_⟩
  · rw [Fragment.values_append, frame.unvalued]
    rfl
  · rw [countStatement, made]
    cases whereFragments scope query.clauses with
    | error _ => rfl
    | ok condition =>
      show Except.ok (dialect.statement _) = Except.ok (dialect.statement _)
      simp only [List.cons_append, List.append_assoc]

/-- An insertion of a document with a defined field has no conditions. -/
theorem exists_frame_insert (dialect : SqlDialect) (table : String) {document : Document}
    (filled : (Document.withoutUndefined document).isEmpty = false) :
    ∃ opening closing,
      Frame dialect ((Document.withoutUndefined document).map Prod.snd) opening closing ∧
        insertStatement dialect table document = .ok (dialect.statement (opening ++ [] ++ closing)) := by
  have names : Quiet dialect (Text.joined ", "
      ((Document.withoutUndefined document).map fun field => dialect.quote field.1)) :=
    quiet_joined (quiet_words (by decide)) (List.forall_mem_map.mpr fun field _ => quiet_quote _)
  have opened : Quiet dialect ("INSERT INTO " ++ dialect.quote table ++ " (" ++ Text.joined ", "
      ((Document.withoutUndefined document).map fun field => dialect.quote field.1) ++ ") VALUES (") :=
    ((((quiet_words (by decide)).append (quiet_quote table)).append
      (quiet_words (by decide))).append names).append (quiet_words (by decide))
  refine ⟨_, [.text ")"], ⟨(numbered_separated (quiet_words (by decide)) (by decide) _).text opened,
    Fragment.values_separated ", " _, numbered_text (quiet_words (by decide)),
    opens_text_cons (by decide), rfl⟩, ?_⟩
  unfold insertStatement
  simp only [filled, Bool.false_eq_true, if_false, List.append_nil]

theorem exists_frame_update (dialect : SqlDialect) {values : Document} (bound : query.requireTable = .ok table)
    (unjoined : query.hasJoins = false)
    (filled : (Document.withoutUndefined (Document.withoutId values)).isEmpty = false) :
    ∃ scope opening closing, scope.dialect = dialect ∧
      Frame dialect ((Document.withoutUndefined (Document.withoutId values)).map Prod.snd) opening
        closing ∧
      updateStatement dialect query values =
        (whereFragments scope query.clauses).map fun condition =>
          dialect.statement (opening ++ condition ++ closing) := by
  obtain ⟨scope, known, same⟩ := exists_columnScope dialect bound
  have opened : Quiet dialect ("UPDATE " ++ dialect.quote table ++ " SET ") :=
    ((quiet_words (by decide)).append (quiet_quote table)).append (quiet_words (by decide))
  refine ⟨scope, _, [], same, ⟨(numbered_assignments true _).text opened, values_assignments true _,
    numbered_nil, opens_nil, rfl⟩, ?_⟩
  unfold updateStatement rejectJoins
  simp only [bound, unjoined, filled, known, Bool.false_eq_true, if_false]
  show (whereFragments scope query.clauses >>= fun condition => .ok _) = _
  cases whereFragments scope query.clauses with
  | error _ => rfl
  | ok condition =>
    show Except.ok (dialect.statement _) = Except.ok (dialect.statement _)
    rw [List.append_nil]

theorem exists_frame_delete (dialect : SqlDialect) (bound : query.requireTable = .ok table)
    (unjoined : query.hasJoins = false) :
    ∃ scope opening closing, scope.dialect = dialect ∧ Frame dialect [] opening closing ∧
      deleteStatement dialect query =
        (whereFragments scope query.clauses).map fun condition =>
          dialect.statement (opening ++ condition ++ closing) := by
  obtain ⟨scope, known, same⟩ := exists_columnScope dialect bound
  have opened : Quiet dialect ("DELETE FROM " ++ dialect.quote table) :=
    (quiet_words (by decide)).append (quiet_quote table)
  refine ⟨scope, _, [], same, ⟨numbered_text opened, rfl, numbered_nil, opens_nil, rfl⟩, ?_⟩
  unfold deleteStatement rejectJoins
  simp only [bound, unjoined, known, Bool.false_eq_true, if_false]
  show (whereFragments scope query.clauses >>= fun condition => .ok _) = _
  cases whereFragments scope query.clauses with
  | error _ => rfl
  | ok condition =>
    show Except.ok (dialect.statement _) = Except.ok (dialect.statement _)
    rw [List.append_nil]
    rfl

/-- **A complete command** is a frame around its conditions that binds the values of its fields. -/
theorem exists_frame (dialect : SqlDialect) {command : Command} (complete : command.isComplete = true) :
    ∃ scope opening closing, scope.dialect = dialect ∧
      Frame dialect (command.fields.map Prod.snd) opening closing ∧
      command.statement dialect =
        (whereFragments scope command.clauses).map fun condition =>
          dialect.statement (opening ++ condition ++ closing) := by
  have bind {given : Query} (bound : given.requireTable.toBool = true) :
      ∃ table, given.requireTable = .ok table := by
    cases known : given.requireTable with
    | error _ =>
      rw [known] at bound
      cases bound
    | ok table => exact ⟨table, rfl⟩
  cases command with
  | select columns query =>
    obtain ⟨table, bound⟩ := bind complete
    obtain ⟨scope, opening, closing, same, frame, made⟩ := exists_frame_select dialect columns bound
    refine ⟨scope, opening, closing, same, frame, ?_⟩
    show selectStatement dialect columns query = (whereFragments scope query.clauses).map _
    rw [selectStatement, made]
    cases whereFragments scope query.clauses <;> rfl
  | count columns query =>
    obtain ⟨table, bound⟩ := bind complete
    exact exists_frame_count dialect columns bound
  | insert table document =>
    obtain ⟨opening, closing, frame, made⟩ := exists_frame_insert dialect table (by
      simpa [Command.isComplete, Command.fields] using complete)
    exact ⟨⟨dialect, "", false⟩, opening, closing, rfl, frame, made⟩
  | update query values =>
    simp only [Command.isComplete, Bool.and_eq_true, Bool.not_eq_true'] at complete
    obtain ⟨⟨named, unjoined⟩, filled⟩ := complete
    obtain ⟨table, bound⟩ := bind named
    exact exists_frame_update dialect bound unjoined filled
  | delete query =>
    simp only [Command.isComplete, Bool.and_eq_true, Bool.not_eq_true'] at complete
    obtain ⟨table, bound⟩ := bind complete.1
    exact exists_frame_delete dialect bound complete.2

theorem hasTable_of_selectFragments {columns : TargetColumns} {pieces : List Fragment}
    (made : selectFragments dialect columns query = .ok pieces) :
    query.requireTable.toBool = true := by
  unfold selectFragments at made
  obtain ⟨table, bound, _⟩ := bind_eq_ok.mp made
  rw [bound]
  rfl

/-- Only a complete command has a statement. -/
theorem isComplete_of_statement {command : Command} {statement : Statement}
    (made : command.statement dialect = .ok statement) : command.isComplete = true := by
  have unjoined {given : Query} {words : String} {done : Unit}
      (allowed : rejectJoins given words = .ok done) : given.hasJoins = false := by
    cases joined : given.hasJoins with
    | false => rfl
    | true =>
      rw [rejectJoins, joined] at allowed
      cases allowed
  cases command with
  | select columns query =>
    obtain ⟨pieces, selected, _⟩ := map_eq_ok.mp made
    exact hasTable_of_selectFragments selected
  | count columns query =>
    obtain ⟨pieces, selected, _⟩ := bind_eq_ok.mp made
    have bound : query.forCount.requireTable.toBool = true := hasTable_of_selectFragments selected
    exact bound
  | insert table document =>
    simp only [Command.isComplete, Command.fields, Bool.not_eq_true']
    change insertStatement dialect table document = .ok statement at made
    unfold insertStatement at made
    simp only at made
    split at made
    · cases made
    · rename_i filled
      exact Bool.eq_false_iff.mpr filled
  | update query values =>
    change updateStatement dialect query values = .ok statement at made
    unfold updateStatement at made
    obtain ⟨table, bound, remaining⟩ := bind_eq_ok.mp made
    obtain ⟨_, allowed, rest⟩ := bind_eq_ok.mp remaining
    simp only [Command.isComplete, Command.fields, Bool.and_eq_true, Bool.not_eq_true', bound]
    refine ⟨⟨rfl, unjoined allowed⟩, ?_⟩
    simp only at rest
    split at rest
    · cases rest
    · rename_i filled
      exact Bool.eq_false_iff.mpr filled
  | delete query =>
    change deleteStatement dialect query = .ok statement at made
    unfold deleteStatement at made
    obtain ⟨table, bound, remaining⟩ := bind_eq_ok.mp made
    obtain ⟨_, allowed, _⟩ := bind_eq_ok.mp remaining
    simp only [Command.isComplete, Bool.and_eq_true, Bool.not_eq_true', bound]
    exact ⟨rfl, unjoined allowed⟩

/-- **When a command has a statement**: it is complete, and every raw condition has as many question
marks as values. -/
theorem statement_iff (dialect : SqlDialect) (command : Command) :
    (∃ statement, command.statement dialect = .ok statement) ↔
      command.isComplete = true ∧ ∀ leaf ∈ Clause.leaves command.clauses, leaf.isCounted = true := by
  constructor
  · rintro ⟨statement, made⟩
    have complete := isComplete_of_statement made
    obtain ⟨scope, opening, closing, rfl, _, framed⟩ := exists_frame dialect complete
    obtain ⟨condition, written, _⟩ := map_eq_ok.mp (framed.symm.trans made)
    exact ⟨complete, (writes_whereFragments command.clauses).succeeds.mp ⟨condition, written⟩⟩
  · rintro ⟨complete, counted⟩
    obtain ⟨scope, opening, closing, rfl, _, framed⟩ := exists_frame dialect complete
    obtain ⟨condition, written⟩ := (writes_whereFragments command.clauses).succeeds.mpr counted
    exact ⟨_, framed.trans (map_eq_ok.mpr ⟨condition, written, rfl⟩)⟩

/-- **What a statement binds**: the values of the written fields, then those of the conditions. -/
theorem bindings_statement {command : Command} {statement : Statement}
    (made : command.statement dialect = .ok statement) :
    statement.bindings = command.fields.map Prod.snd ++
      (Clause.leaves command.clauses).flatMap Predicate.bound := by
  obtain ⟨scope, opening, closing, rfl, frame, framed⟩ :=
    exists_frame dialect (isComplete_of_statement made)
  obtain ⟨condition, written, rfl⟩ := map_eq_ok.mp (framed.symm.trans made)
  show Fragment.values (opening ++ condition ++ closing) = _
  rw [Fragment.values_append, Fragment.values_append, frame.written, frame.unvalued,
    (writes_whereFragments command.clauses).values written, List.append_nil]

/-- **The places of a statement** with tame raw conditions. -/
theorem places_of_statement {command : Command} {statement : Statement}
    (made : command.statement dialect = .ok statement)
    (tame : ∀ leaf ∈ Clause.leaves command.clauses,
      leaf.isUnquoted dialect = true ∧ leaf.isSpaced dialect = true) :
    places dialect false statement.sql.toList =
      (List.range' 1 statement.bindings.length).map dialect.placeholder := by
  obtain ⟨scope, opening, closing, rfl, frame, framed⟩ :=
    exists_frame dialect (isComplete_of_statement made)
  obtain ⟨condition, written, rfl⟩ := map_eq_ok.mp (framed.symm.trans made)
  have numbered := (writes_whereFragments command.clauses).numbered written tame
  exact places_statement ((frame.opened.append numbered (opens_whereFragments written)).append
    frame.closed frame.opens)

end Frames

/-- **Placeholders and bindings line up.** A command has a statement if it is complete and its raw
conditions are counted; the statement binds the values of the written fields and then those of the
conditions. Unless raw conditions bring quotes, dollar signs or longer numbers with them, the places in
its text are those of its bindings, in order. -/
theorem places_of_bindings (dialect : SqlDialect) (command : Command) :
    ((∃ statement, command.statement dialect = .ok statement) ↔
      command.isComplete = true ∧ ∀ leaf ∈ Clause.leaves command.clauses, leaf.isCounted = true) ∧
    ∀ statement, command.statement dialect = .ok statement →
      statement.bindings = command.fields.map Prod.snd ++
        (Clause.leaves command.clauses).flatMap Predicate.bound ∧
      ((∀ leaf ∈ Clause.leaves command.clauses,
          leaf.isUnquoted dialect = true ∧ leaf.isSpaced dialect = true) →
        places dialect false statement.sql.toList =
          (List.range' 1 statement.bindings.length).map dialect.placeholder) :=
  ⟨statement_iff dialect command, fun _ made =>
    ⟨bindings_statement made, fun tame => places_of_statement made tame⟩⟩

/-- An update whose names hold placeholders and quotes, and whose conditions nest. -/
def cunning : Command :=
  .update
    { Query.ofTable "a\"?.$1" with
      clauses := [(.and, .group [(.or, .equal "b?" .null), (.or, .oneOf "c" [] false),
          (.and, .group [])]),
        (.or, .raw "x = ? OR y > ?" [.int32 3, .int32 4]),
        (.and, .between "d" (.int32 5) (.int32 6) true)] }
    [("id", .int32 0), ("e$2", .int32 1), ("f", .undefined), ("g\"", .int32 2)]

/-- Six values in six places, however the names look. -/
theorem places_cunning :
    ∃ statement, cunning.statement .postgres = .ok statement ∧
      statement.bindings = [.int32 1, .int32 2, .int32 3, .int32 4, .int32 5, .int32 6] ∧
      places .postgres false statement.sql.toList = ["$1", "$2", "$3", "$4", "$5", "$6"] := by
  have tame : ∀ leaf ∈ Clause.leaves cunning.clauses,
      leaf.isUnquoted .postgres = true ∧ leaf.isSpaced .postgres = true := by
    decide +kernel
  obtain ⟨succeeds, binds⟩ := places_of_bindings .postgres cunning
  obtain ⟨statement, made⟩ := succeeds.mpr ⟨by decide +kernel, by decide +kernel⟩
  obtain ⟨bindings, places⟩ := binds statement made
  refine ⟨statement, made, bindings.trans rfl, (places tame).trans ?_⟩
  rw [bindings]
  decide +kernel

/-- A piece of SQL with a digit directly behind its question mark. -/
def lengthened : Command :=
  .select [] { Query.ofTable "t" with clauses := [(.and, .raw "a = ?1" [.int32 5])] }

/-- The digit makes the number of the first place longer. -/
theorem places_lengthened :
    (∀ leaf ∈ Clause.leaves lengthened.clauses, leaf.isUnquoted .postgres = true) ∧
      ∃ statement, lengthened.statement .postgres = .ok statement ∧
        places .postgres false statement.sql.toList = ["$11"] ∧
        (List.range' 1 statement.bindings.length).map SqlDialect.postgres.placeholder = ["$1"] := by
  refine ⟨by decide +kernel, _, rfl, ?_, ?_⟩ <;> decide +kernel

end Sql

end Polystore
