/-
**Reads by identifier and by fields.**

A `Lookup` adds equalities to the clauses of a query, each by `AND`. `AND` binds tighter than `OR`, so
they only join the last piece of the clauses: a document that an earlier piece accepts is found whether
it meets them or not (`Lookup.admits`).

* `hold_clauses_query`: what the clauses of the carried out query say;
* `hold_clauses_narrowed`: a query whose clauses were grouped first lets nothing escape;
* `run_get_unshaped`: the rows of a query without joins, groupings, selection and relationships;
* `rows_of_lookup`: the rows of a lookup are those of the admitted documents, which meet its equalities
  exactly if no stored document escapes them.
-/

import Polystore.Proofs.Filter.Meaning
import Polystore.Proofs.Rows.Origin

namespace Polystore

open Memory Native

/-- A read that adds equalities to a query. -/
inductive Lookup where
  | many (search : Search)
  | one (search : Search)
  | byId (identifier : String)
  deriving Repr

namespace Lookup

/-- The columns that a lookup asks for, and the values that they have to equal. -/
def equalities : Lookup → Document
  | many search | one search => search.filter
  | byId identifier => [(idField, .string identifier)]

/-- Whether texts are compared as they are. -/
def isLiteral : Lookup → Bool
  | many search | one search => !search.partly && !search.fuzzy
  | byId _ => true

/-- The query that is carried out. -/
def query (query : Query) : Lookup → Query
  | many search => query.refineAll search.refinements
  | one search => (query.refineAll search.refinements).withLimit 1
  | byId identifier => (query.addClause .and (.equal idField (.string identifier))).withLimit 1

/-- The rows that a lookup gives. -/
def rows {interface : Interface} (connection : Connection interface) (query : Query) :
    Lookup → Program interface (List Document)
  | many search => connection.findMany query search
  | one search => do return (← connection.findOne query search).toList
  | byId identifier => do return (← connection.findById query identifier).toList

/-- **Whether a document meets the equalities of a lookup.** -/
def meets (document : Document) (lookup : Lookup) : Bool :=
  lookup.equalities.all fun (column, value) =>
    Operator.equal.holds (Predicate.fieldOf column document) (Predicate.meant column value)

/-- **Whether a lookup finds a document**: the clauses of the query hold of it, and unless they do so by
a piece before the last one, it meets the equalities. -/
def admits (query : Query) (lookup : Lookup) (document : Document) : Bool :=
  Clause.hold (Predicate.meets document) query.clauses &&
    (Clause.escapes (Predicate.meets document) query.clauses || lookup.meets document)

end Lookup

/-! ### The carried out query -/

section Refined

variable {query : Query} {lookup : Lookup}

theorem refineAll_append (query : Query) (first second : List Refinement) :
    query.refineAll (first ++ second) = (query.refineAll first).refineAll second :=
  List.foldl_append

theorem refineAll_clauses {α : Type} (query : Query) (clause : α → Predicate) (items : List α) :
    query.refineAll (items.map fun item => .clause .and (clause item)) =
      { query with clauses := query.clauses ++ items.map fun item => (.and, clause item) } := by
  induction items generalizing query with
  | nil =>
    show query = _
    rw [List.map_nil, List.append_nil]
  | cons item rest hypothesis =>
    have one : query.refineAll ((item :: rest).map fun item => .clause .and (clause item)) =
        (query.addClause .and (clause item)).refineAll
          (rest.map fun item => .clause .and (clause item)) := rfl
    rw [one, hypothesis]
    simp [Query.addClause]

theorem refineAll_orders (query : Query) (orders : List Order) :
    query.refineAll (orders.map fun order => .orderBy order.column order.direction) =
      { query with orders := query.orders ++ orders } := by
  induction orders generalizing query with
  | nil =>
    show query = _
    rw [List.append_nil]
  | cons order rest hypothesis =>
    have one : query.refineAll ((order :: rest).map fun order => .orderBy order.column order.direction) =
        (query.addOrder order.column order.direction).refineAll
          (rest.map fun order => .orderBy order.column order.direction) := rfl
    rw [one, hypothesis]
    simp [Query.addOrder]

/-- A search adds its conditions and orders, and puts its window in the place of the old one. -/
theorem refineAll_refinements (query : Query) (search : Search) :
    query.refineAll search.refinements =
      { query with
        clauses := query.clauses ++
          search.filter.map fun field => (.and, search.predicate field.1 field.2)
        orders := query.orders ++ search.orders
        limit := search.limit.or query.limit
        offset := search.skip.or query.offset } := by
  have conditions : (search.filter.map fun (column, value) =>
        Refinement.clause .and (search.predicate column value)) =
      search.filter.map fun field => .clause .and (search.predicate field.1 field.2) := rfl
  unfold Search.refinements
  rw [refineAll_append, refineAll_append, refineAll_append, conditions, refineAll_clauses,
    refineAll_orders]
  cases search.limit <;> cases search.skip <;> rfl

/-- **A literal lookup adds equalities by `AND`** and changes nothing else but order and window. -/
theorem exists_query (query : Query) (literal : lookup.isLiteral = true) :
    ∃ orders offset limit, lookup.query query =
      { query with
        clauses := query.clauses ++
          lookup.equalities.map fun field => (.and, .equal field.1 field.2)
        orders, offset, limit } := by
  have plain : ∀ search : Search, (!search.partly && !search.fuzzy) = true →
      search.predicate = Predicate.equal := by
    intro search exact
    rw [Bool.and_eq_true, Bool.not_eq_true', Bool.not_eq_true'] at exact
    funext column value
    cases value with
    | string text =>
      show (if search.fuzzy then _ else if search.partly then _ else _) = _
      rw [exact.1, exact.2]
      rfl
    | _ => rfl
  cases lookup with
  | many search =>
    have made := refineAll_refinements query search
    rw [plain search literal] at made
    exact ⟨_, _, _, made⟩
  | one search =>
    have made := congrArg (Query.withLimit 1) (refineAll_refinements query search)
    rw [plain search literal] at made
    exact ⟨_, _, _, made⟩
  | byId identifier => exact ⟨_, _, _, rfl⟩

/-- **What the clauses of the carried out query say.** -/
theorem hold_clauses_query (query : Query) (literal : lookup.isLiteral = true) (document : Document) :
    Clause.hold (Predicate.meets document) (lookup.query query).clauses =
      lookup.admits query document := by
  obtain ⟨_, _, _, whole⟩ := exists_query query literal
  have joined : ∀ clause ∈ lookup.equalities.map fun field =>
      ((.and, .equal field.1 field.2) : Clause), clause.1 = .and := by
    intro clause member
    obtain ⟨_, _, rfl⟩ := List.mem_map.mp member
    rfl
  rw [whole, Clause.hold_append _ joined, List.all_map]
  rfl

/-- **A narrowed query lets nothing escape**: its own clauses are one group, so the added condition
binds whatever they accept. -/
theorem hold_clauses_narrowed (reading : Predicate → Bool) (query : Query) (condition : Predicate) :
    Clause.hold reading (query.narrowed condition).clauses =
      (Clause.hold reading query.clauses && condition.truth reading) := by
  by_cases empty : query.clauses = []
  · have alone : (query.narrowed condition).clauses = [] ++ [(.and, condition)] := by
      unfold Query.narrowed
      rw [empty]
      rfl
    rw [alone, Clause.hold_append reading (by simp), empty]
    simp [Clause.escapes]
  · have grouped : (query.narrowed condition).clauses =
        [(.and, .group query.clauses)] ++ [(.and, condition)] := by
      have filled : query.clauses.isEmpty = false := List.isEmpty_eq_false_iff.mpr empty
      unfold Query.narrowed
      rw [filled]
      rfl
    have whole : Clause.hold reading [(.and, .group query.clauses)] =
        Clause.hold reading query.clauses := by
      rw [Clause.hold_eq_cut]
      simp [Predicate.truth, Clause.hold]
    rw [grouped, Clause.hold_append reading (by simp), whole]
    simp [Clause.escapes]

end Refined

/-! ### Queries without a shape of their own -/

/-- Whether the rows of a query are stored documents as they are: nothing is joined, grouped, selected
or loaded. -/
def Query.isUnshaped (query : Query) : Bool :=
  !query.isPostProcessed && query.columns.isEmpty && query.loads.isEmpty

/-- The documents that a query lists: the accepted ones in its order, within its window. -/
def Native.listed (query : Query) (accepts : Document → Bool) (documents : List Document) :
    List Document :=
  let remaining :=
    (sorted (sort query.orders) (documents.filter accepts)).drop (query.offset.getD 0)
  match query.limit with
  | some limit => remaining.take limit
  | none => remaining

section Unshaped

variable {scope : Scope} {validator : Validator} {query : Query} {table : String} {store : Store}
  {world : World Server} {accepts : Document → Bool}

/-- Matching a filter that decides every document picks the accepted ones. -/
theorem matching_eq_filter {filter : Document} {documents : List Document}
    (decides : ∀ document ∈ documents, passes document filter = .ok (accepts document)) :
    matching filter documents = .ok (documents.filter accepts) := by
  induction documents with
  | nil => rfl
  | cons first rest hypothesis =>
    rw [matching, decides first List.mem_cons_self,
      hypothesis fun document member => decides document (List.mem_cons_of_mem _ member)]
    cases accepted : accepts first with
    | false =>
      rw [List.filter_cons_of_neg (by rw [accepted]; exact Bool.false_ne_true)]
      rfl
    | true =>
      rw [List.filter_cons_of_pos accepted]
      rfl

/-- The read of an unshaped query. -/
def Native.plainRead (query : Query) (filter : Document) : Read where
  filter
  sort := sort query.orders
  projection := none
  skip := query.offset
  limit := query.limit

theorem isPostProcessed_of_isUnshaped (unshaped : query.isUnshaped = true) :
    query.isPostProcessed = false := by
  unfold Query.isUnshaped at unshaped
  rw [Bool.and_eq_true, Bool.and_eq_true, Bool.not_eq_true'] at unshaped
  exact unshaped.1.1

theorem read_eq_plainRead (bound : query.requireTable = .ok table) (unshaped : query.isUnshaped = true)
    {filter : Document} (made : Native.filter query.clauses = .ok filter) :
    Native.read query = .ok (plainRead query filter) := by
  have unselected : query.columns = [] := by
    unfold Query.isUnshaped at unshaped
    rw [Bool.and_eq_true, Bool.and_eq_true, List.isEmpty_iff] at unshaped
    exact unshaped.1.2
  unfold Native.read
  rw [bound, made, isPostProcessed_of_isUnshaped unshaped, unselected]
  rfl

theorem found_plainRead {filter : Document} {documents : List Document}
    (decides : ∀ document ∈ documents, passes document filter = .ok (accepts document)) :
    found (plainRead query filter) documents = .ok (listed query accepts documents) := by
  unfold found
  have matched : matching (plainRead query filter).filter documents =
      .ok (documents.filter accepts) := matching_eq_filter decides
  rw [matched]
  show Except.ok (List.map id _) = _
  rw [List.map_id]
  rfl

/-- The documents of an unshaped query, as rows. -/
theorem run_readRows (visible : world.state.visible? scope = some store)
    (bound : query.requireTable = .ok table) (unshaped : query.isUnshaped = true) {filter : Document}
    (made : Native.filter query.clauses = .ok filter)
    (decides : ∀ document ∈ store.documents table, passes document filter = .ok (accepts document)) :
    (Program.ofExcept (Native.read query) >>= findRows scope table).run Server.driver world =
      (.finished (.ok ((listed query accepts (store.documents table)).map
        ObjectIdentifier.canonicalDocument)), world) := by
  have searched := run_findRows visible table (plainRead query filter)
  rw [found_plainRead decides] at searched
  rw [Program.run_bind_of_ok
    (Program.run_ofExcept_ok.mpr ⟨read_eq_plainRead bound unshaped made, rfl⟩)]
  exact searched

/-- **The rows of a query** are made of what is found for it, joined with other collections. -/
theorem run_selectRows (visible : world.state.visible? scope = some store)
    (bound : query.requireTable = .ok table) {read : Read} (reading : Native.read query = .ok read)
    {documents rows : List Document} (answered : found read (store.documents table) = .ok documents)
    (joined : (applyJoins scope query.joins (documents.map ObjectIdentifier.canonicalDocument)).run
      Server.driver world = (.finished (.ok rows), world)) :
    (selectRows scope query).run Server.driver world =
      (.finished (.ok (windowed query (selected query (grouped query rows)))), world) := by
  have searched := run_findRows visible table read
  rw [answered] at searched
  unfold selectRows
  rw [Program.run_bind_of_ok (Program.run_ofExcept_ok.mpr ⟨bound, rfl⟩),
    Program.run_bind_of_ok (Program.run_ofExcept_ok.mpr ⟨reading, rfl⟩),
    Program.run_bind_of_ok searched, Program.run_bind_of_ok joined]
  rfl

/-- What an unshaped query finds. -/
theorem run_selectRows_unshaped (visible : world.state.visible? scope = some store)
    (bound : query.requireTable = .ok table) (unshaped : query.isUnshaped = true) {filter : Document}
    (made : Native.filter query.clauses = .ok filter)
    (decides : ∀ document ∈ store.documents table, passes document filter = .ok (accepts document)) :
    (selectRows scope query).run Server.driver world =
      (.finished (.ok ((listed query accepts (store.documents table)).map
        ObjectIdentifier.canonicalDocument)), world) := by
  have direct : query.isPostProcessed = false := isPostProcessed_of_isUnshaped unshaped
  have shape := unshaped
  simp only [Query.isUnshaped, Query.isPostProcessed, Query.hasJoins, Bool.and_eq_true,
    Bool.not_eq_true', Bool.or_eq_false_iff, Bool.not_eq_false', List.isEmpty_iff] at shape
  obtain ⟨⟨⟨⟨unjoined, ungrouped⟩, repeated⟩, unselected⟩, unloaded⟩ := shape
  have alone (rows : List Document) : (applyJoins scope query.joins rows).run Server.driver world =
      (.finished (.ok rows), world) := by
    rw [unjoined]
    rfl
  rw [run_selectRows visible bound (read_eq_plainRead bound unshaped made) (found_plainRead decides)
    (alone _)]
  simp only [windowed, selected, grouped, direct, ungrouped, repeated, unselected]
  rfl

/-- **The rows of an unshaped query**: the accepted documents in its order, within its window. -/
theorem run_get_unshaped (visible : world.state.visible? scope = some store)
    (bound : query.requireTable = .ok table) (unshaped : query.isUnshaped = true) {filter : Document}
    (made : Native.filter query.clauses = .ok filter)
    (decides : ∀ document ∈ store.documents table, passes document filter = .ok (accepts document)) :
    ((Connection.mk engine scope validator).get query).run Server.driver world =
      (.finished (.ok ((listed query accepts (store.documents table)).map
        ObjectIdentifier.canonicalDocument)), world) := by
  have chosen : (engine.select scope query).run Server.driver world = _ :=
    Program.run_orIfInvalidIdentifier_of_ok
      (run_selectRows_unshaped visible bound unshaped made decides)
  have unloaded : query.loads.isEmpty = true := by
    unfold Query.isUnshaped at unshaped
    exact (Bool.and_eq_true_iff.mp unshaped).2
  unfold Connection.get
  rw [Program.run_bind_of_ok (Program.run_ofExcept_ok.mpr ⟨bound, rfl⟩)]
  refine (Program.run_bind_of_ok chosen _).trans ?_
  rw [unloaded]
  rfl

end Unshaped

/-! ### Identifiers in rows -/

section Identified

variable {query : Query} {document row : Document} {identifier : ObjectId}

/-- Whether the rows of a query show the identifier of their base row. -/
def Query.showsIdentifier (query : Query) : Prop :=
  query.columns = [] ∧ query.distinct = [] ∧ idField ∉ query.joins.map (·.target) ∧
    idField ∉ query.loads.map (·.name)

/-- What equals an identifier and is no array is the identifier. -/
theorem eq_of_equalsOperand_objectId {field : Option Value}
    (single : ∀ items, field ≠ some (.array items))
    (equal : equalsOperand field (.objectId identifier) = true) :
    field = some (.objectId identifier) := by
  cases field with
  | none => cases equal
  | some value =>
    cases value with
    | array items => exact absurd rfl (single items)
    | objectId other =>
      have same : (other == identifier) = true := equal
      rw [eq_of_beq same]
    | _ => cases equal

/-- A document with an identifier shows it as a text. -/
theorem get?_id_of_stems (shows : query.showsIdentifier)
    (stems : Stems query (storedRow query document) row)
    (identified : Document.get? ObjectIdentifier.nativeField document = some (.objectId identifier)) :
    Document.get? idField row = some (.string identifier.hex) := by
  obtain ⟨columns, distinct, unjoined, unloaded⟩ := shows
  obtain ⟨joined, joins, loads⟩ := stems
  have whole : shown query joined = joined := by
    unfold shown
    rw [columns, distinct]
    rfl
  have unprojected : storeProjection query = none := by
    unfold storeProjection
    rw [columns]
    exact ite_self none
  rw [loads idField unloaded, whole, joins idField unjoined, storedRow, unprojected]
  show Document.get? idField (ObjectIdentifier.canonicalDocument document) = _
  unfold ObjectIdentifier.canonicalDocument
  rw [identified]
  rfl

end Identified

/-! ### Rows of lookups -/

section Lookups

variable {connection : Connection interface} {query : Query} {world last : World Server}
  {lookup : Lookup} {rows : List Document}

/-- The rows of a lookup are rows of the carried out query. -/
theorem exists_of_rows (ran : (lookup.rows connection query).run Server.driver world =
      (.finished (.ok rows), last)) :
    ∃ found, (connection.get (lookup.query query)).run Server.driver world =
      (.finished (.ok found), last) ∧ rows ⊆ found := by
  have first : ∀ {refined : Query},
      (do return (← connection.first? refined).toList : Program interface (List Document)).run
        Server.driver world = (.finished (.ok rows), last) →
      ∃ found, (connection.get (refined.withLimit 1)).run Server.driver world =
        (.finished (.ok found), last) ∧ rows ⊆ found := by
    intro refined ran
    obtain ⟨head, middle, chosen, whole⟩ := Program.run_bind_ok.mp ran
    obtain ⟨found, after, got, taken⟩ := Program.run_bind_ok.mp chosen
    cases taken
    cases whole
    refine ⟨found, got, fun row member => ?_⟩
    exact List.mem_of_mem_head? (Option.mem_toList.mp member)
  cases lookup with
  | many search => exact ⟨rows, ran, List.Subset.refl rows⟩
  | one search => exact first ran
  | byId identifier => exact first ran

/-- The rows of a lookup, from those of the carried out query. -/
theorem run_rows_of_get {found : List Document}
    (short : (lookup.query query).limit = some 1 → found.length ≤ 1)
    (got : (connection.get (lookup.query query)).run Server.driver world =
      (.finished (.ok found), last)) :
    (lookup.rows connection query).run Server.driver world = (.finished (.ok found), last) := by
  have first : ∀ {refined : Query}, found.length ≤ 1 →
      (connection.get (refined.withLimit 1)).run Server.driver world = (.finished (.ok found), last) →
      (do return (← connection.first? refined).toList : Program interface (List Document)).run
        Server.driver world = (.finished (.ok found), last) := by
    intro refined single got
    have chosen : (connection.first? refined).run Server.driver world =
        (.finished (.ok found.head?), last) := Program.run_bind_of_ok got _
    refine (Program.run_bind_of_ok chosen _).trans ?_
    match found, single with
    | [], _ => rfl
    | [_], _ => rfl
  cases lookup with
  | many search => exact got
  | one search => exact first (short rfl) got
  | byId identifier => exact first (short rfl) got

/-- A window of one row holds at most one document. -/
theorem length_listed_le {query : Query} {accepts : Document → Bool} {documents : List Document}
    {limit : Nat} (limited : query.limit = some limit) :
    (listed query accepts documents).length ≤ limit := by
  unfold listed
  rw [limited]
  exact List.length_take_le _ _

variable {scope : Scope} {validator : Validator} {store : Store} {table : String}

/-- Every row of a lookup stems from a base row whose document the lookup admits. -/
theorem exists_base_of_rows (visible : world.state.visible? scope = some store)
    (bound : query.requireTable = .ok table) (literal : lookup.isLiteral = true)
    (ran : (lookup.rows ⟨engine, scope, validator⟩ query).run Server.driver world =
      (.finished (.ok rows), last)) {row : Document} (member : row ∈ rows) :
    (∃ filter, Native.filter (lookup.query query).clauses = .ok filter) ∧
      ∃ base, Stems query base row ∧
        Base query (fun document =>
          document ∈ store.documents table ∧ lookup.admits query document = true) base := by
  obtain ⟨found, got, inside⟩ := exists_of_rows ran
  have meaning : ∀ document, Clause.hold (Predicate.meets document) (lookup.query query).clauses =
      lookup.admits query document := hold_clauses_query query literal
  obtain ⟨orders, offset, limit, whole⟩ := exists_query query literal
  rw [whole] at got meaning ⊢
  obtain ⟨filter, made, base, stems, based⟩ :=
    exists_base_of_get visible (by exact bound) got (inside member)
  refine ⟨⟨filter, made⟩, base, stems, ?_⟩
  cases based with
  | ofDocument accepted =>
    refine .ofDocument ⟨accepted.1, ?_⟩
    rw [← meaning]
    exact ((settles_filter _ made).eq_of_ok accepted.2).symm
  | unmatched among kept => exact .unmatched among kept

/-- Every condition of clauses that have a filter has one. -/
theorem exists_condition_of_mem {clauses : List Clause} {filters : List (Connective × Document)}
    (made : Native.conditions clauses = .ok filters) {clause : Clause} (member : clause ∈ clauses) :
    ∃ filter, Native.condition clause.2 = .ok filter := by
  induction clauses generalizing filters with
  | nil => cases member
  | cons first rest hypothesis =>
    obtain ⟨filter, one, remaining⟩ := bind_eq_ok.mp made
    obtain ⟨others, more, _⟩ := bind_eq_ok.mp remaining
    rcases List.mem_cons.mp member with rfl | member
    · exact ⟨filter, one⟩
    · exact hypothesis more member

/-- A lookup by identifier that finds a row was given a readable one. -/
theorem exists_objectId {identifier : String} {filter : Document}
    (made : Native.filter ((Lookup.byId identifier).query query).clauses = .ok filter) :
    ∃ read, ObjectId.ofHex? identifier = some read := by
  obtain ⟨filters, each, _⟩ := map_eq_ok.mp made
  obtain ⟨_, condition⟩ := exists_condition_of_mem each (List.mem_append_right _ List.mem_cons_self)
  obtain ⟨bound, operand, _⟩ := bind_eq_ok.mp condition
  cases written : ObjectId.ofHex? identifier with
  | some read => exact ⟨read, rfl⟩
  | none => simp [Native.operand, Value.isNull, ObjectIdentifier.nativeValue, ObjectIdentifier.parse,
      written, Except.map] at operand

/-- A row that stems from a document with the wanted identifier shows it. -/
theorem get?_id_of_meets {identifier : String} {read : ObjectId} {document row : Document}
    (written : ObjectId.ofHex? identifier = some read) (shows : query.showsIdentifier)
    (stems : Stems query (storedRow query document) row)
    (meets : (Lookup.byId identifier).meets document = true)
    (single : ∀ items, Document.get? ObjectIdentifier.nativeField document ≠ some (.array items)) :
    Document.get? idField row = some (.string read.hex) := by
  have named : Predicate.fieldOf idField document =
      Document.get? ObjectIdentifier.nativeField document := rfl
  have meant : Predicate.meant idField (.string identifier) = .objectId read := by
    simp [Predicate.meant, written]
  have equal : equalsOperand (Document.get? ObjectIdentifier.nativeField document) (.objectId read) =
      true := by
    rw [← named, ← meant]
    simpa [Lookup.meets, Lookup.equalities, Operator.holds] using meets
  exact get?_id_of_stems shows stems (eq_of_equalsOperand_objectId single equal)

/-- A lookup on an unshaped query gives the admitted documents. -/
theorem run_rows_unshaped (visible : world.state.visible? scope = some store)
    (bound : query.requireTable = .ok table) (literal : lookup.isLiteral = true)
    (unshaped : query.isUnshaped = true)
    (clean : ∀ leaf ∈ Clause.leaves (lookup.query query).clauses,
      leaf.isRaw = false ∧ leaf.isPlain = true ∧ leaf.readsIdentifiers = true) :
    (lookup.rows ⟨engine, scope, validator⟩ query).run Server.driver world =
      (.finished (.ok ((listed (lookup.query query) (lookup.admits query)
        (store.documents table)).map ObjectIdentifier.canonicalDocument)), world) := by
  have meaning : ∀ document, Clause.hold (Predicate.meets document) (lookup.query query).clauses =
      lookup.admits query document := hold_clauses_query query literal
  obtain ⟨filter, made, decided⟩ := exists_filter_decides clean
  have decides : ∀ document ∈ store.documents table,
      passes document filter = .ok (lookup.admits query document) := by
    intro document _
    rw [← meaning]
    exact decided document
  refine run_rows_of_get (fun limited => ?_) ?_
  · rw [List.length_map]
    exact length_listed_le limited
  · obtain ⟨orders, offset, limit, whole⟩ := exists_query query literal
    rw [whole] at made ⊢
    exact run_get_unshaped visible bound unshaped made decides

/-- Without a window every accepted document is listed. -/
theorem mem_listed {accepts : Document → Bool} {documents : List Document} {document : Document}
    (unlimited : query.limit = none) (complete : query.offset = none) :
    document ∈ listed query accepts documents ↔ document ∈ documents ∧ accepts document = true := by
  unfold listed
  rw [unlimited, complete]
  show document ∈ sorted _ _ ↔ _
  rw [mem_sorted, List.mem_filter]

/-- The listed documents meet the equalities exactly if none that escapes fails them. -/
theorem forall_listed_iff {refined : Query} {documents : List Document}
    (unlimited : refined.limit = none) (complete : refined.offset = none) :
    (∀ document ∈ listed refined (lookup.admits query) documents, lookup.meets document = true) ↔
      ∀ document ∈ documents,
        Clause.escapes (Predicate.meets document) query.clauses = true →
          lookup.meets document = true := by
  constructor
  · intro confined document stored escaped
    refine confined document ((mem_listed unlimited complete).mpr ⟨stored, ?_⟩)
    rw [Lookup.admits, Clause.hold_of_escapes escaped, escaped]
    rfl
  · intro closed document inside
    obtain ⟨stored, admitted⟩ := (mem_listed unlimited complete).mp inside
    unfold Lookup.admits at admitted
    rw [Bool.and_eq_true, Bool.or_eq_true] at admitted
    exact admitted.2.elim (closed document stored) id

/-- **The rows of a lookup.** Each stems from a document that the lookup admits, or extends no document
where a right or full join keeps what has no match; and a row of a document with the wanted identifier
shows it. Of an unshaped query they are the admitted documents, which all meet the equalities exactly
if no stored document escapes them. -/
theorem rows_of_lookup (visible : world.state.visible? scope = some store)
    (bound : query.requireTable = .ok table) (literal : lookup.isLiteral = true) :
    (∀ rows last row,
      (lookup.rows ⟨engine, scope, validator⟩ query).run Server.driver world =
          (.finished (.ok rows), last) →
        row ∈ rows →
        (∃ base, Stems query base row ∧
          Base query (fun document =>
            document ∈ store.documents table ∧ lookup.admits query document = true) base) ∧
        ∀ identifier, lookup = .byId identifier → query.showsIdentifier →
          ∃ wanted, ObjectId.ofHex? identifier = some wanted ∧
            ∀ document, Stems query (storedRow query document) row →
              lookup.meets document = true →
              (∀ items,
                Document.get? ObjectIdentifier.nativeField document ≠ some (.array items)) →
              Document.get? idField row = some (.string wanted.hex)) ∧
    (query.isUnshaped = true →
      (∀ leaf ∈ Clause.leaves (lookup.query query).clauses,
        leaf.isRaw = false ∧ leaf.isPlain = true ∧ leaf.readsIdentifiers = true) →
      (lookup.rows ⟨engine, scope, validator⟩ query).run Server.driver world =
          (.finished (.ok ((listed (lookup.query query) (lookup.admits query)
            (store.documents table)).map ObjectIdentifier.canonicalDocument)), world) ∧
        ((lookup.query query).limit = none → (lookup.query query).offset = none →
          ((∀ document ∈ listed (lookup.query query) (lookup.admits query) (store.documents table),
              lookup.meets document = true) ↔
            ∀ document ∈ store.documents table,
              Clause.escapes (Predicate.meets document) query.clauses = true →
                lookup.meets document = true))) := by
  refine ⟨fun rows last row ran member => ?_, fun unshaped clean => ⟨?_, ?_⟩⟩
  · obtain ⟨⟨filter, made⟩, origin⟩ := exists_base_of_rows visible bound literal ran member
    refine ⟨origin, ?_⟩
    rintro identifier rfl shows
    obtain ⟨wanted, written⟩ := exists_objectId made
    refine ⟨wanted, written, fun document stems meets single => ?_⟩
    exact get?_id_of_meets written shows stems meets single
  · exact run_rows_unshaped visible bound literal unshaped clean
  · exact forall_listed_iff

end Lookups

/-- Two people, of whom the clauses below accept the first. -/
def people : Store :=
  [("people",
    [[("_id", .objectId ⟨1⟩), ("name", .string "Ann")],
      [("_id", .objectId ⟨2⟩), ("name", .string "Bob")]])]

def annOrEve : Query :=
  { Query.ofTable "people" with
    clauses := [(.and, .equal "name" (.string "Ann")), (.or, .equal "name" (.string "Eve"))] }

/-- The people named so. -/
def namesakes (name : String) : Lookup :=
  .many
    { filter := [("name", .string name)], partly := false, fuzzy := false, orders := []
      limit := none, skip := none }

/-- The conditions of the clauses above and of one more equality. -/
theorem clean_annOrEve (lookup : Lookup) (added : Predicate)
    (leaves : Clause.leaves (lookup.query annOrEve).clauses =
      [.equal "name" (.string "Ann"), .equal "name" (.string "Eve"), added])
    (clean : added.isRaw = false ∧ added.isPlain = true ∧ added.readsIdentifiers = true) :
    ∀ leaf ∈ Clause.leaves (lookup.query annOrEve).clauses,
      leaf.isRaw = false ∧ leaf.isPlain = true ∧ leaf.readsIdentifiers = true := by
  rw [leaves]
  simp only [List.mem_cons, List.not_mem_nil, or_false, forall_eq_or_imp, forall_eq]
  exact ⟨by decide +kernel, by decide +kernel, clean⟩

/-- The person of the first piece is found by the identifier and by the name of another one. -/
theorem run_rows_escaped :
    ((Lookup.byId "000000000000000000000002").rows ⟨engine, .connection, .raising⟩ annOrEve).run
        Server.driver ⟨⟨0, 0⟩, ⟨people, none, 0⟩⟩ =
      (.finished (.ok [[("id", .string "000000000000000000000001"), ("name", .string "Ann")]]),
        ⟨⟨0, 0⟩, ⟨people, none, 0⟩⟩) ∧
    ((namesakes "Bob").rows ⟨engine, .connection, .raising⟩ annOrEve).run
        Server.driver ⟨⟨0, 0⟩, ⟨people, none, 0⟩⟩ =
      (.finished (.ok [[("id", .string "000000000000000000000001"), ("name", .string "Ann")]]),
        ⟨⟨0, 0⟩, ⟨people, none, 0⟩⟩) := by
  constructor
  · exact @run_rows_unshaped annOrEve ⟨⟨0, 0⟩, ⟨people, none, 0⟩⟩ (.byId "000000000000000000000002")
      .connection .raising people "people" rfl rfl rfl rfl
      (clean_annOrEve (.byId "000000000000000000000002")
        (.equal "id" (.string "000000000000000000000002")) rfl (by decide +kernel))
  · exact @run_rows_unshaped annOrEve ⟨⟨0, 0⟩, ⟨people, none, 0⟩⟩ (namesakes "Bob")
      .connection .raising people "people" rfl rfl rfl rfl
      (clean_annOrEve (namesakes "Bob") (.equal "name" (.string "Bob")) rfl (by decide +kernel))

/-- Who escapes meets the equality here, so all rows do. -/
theorem rows_of_lookup_namesakes :
    ((namesakes "Ann").rows ⟨engine, .connection, .raising⟩ annOrEve).run
        Server.driver ⟨⟨0, 0⟩, ⟨people, none, 0⟩⟩ =
      (.finished (.ok [[("id", .string "000000000000000000000001"), ("name", .string "Ann")]]),
        ⟨⟨0, 0⟩, ⟨people, none, 0⟩⟩) ∧
    ∀ document ∈ listed ((namesakes "Ann").query annOrEve) ((namesakes "Ann").admits annOrEve)
      (people.documents "people"), (namesakes "Ann").meets document = true := by
  obtain ⟨listed, confined⟩ :=
    (@rows_of_lookup annOrEve ⟨⟨0, 0⟩, ⟨people, none, 0⟩⟩ (namesakes "Ann") .connection .raising people
      "people" rfl rfl rfl).2 rfl
        (clean_annOrEve (namesakes "Ann") (.equal "name" (.string "Ann")) rfl (by decide +kernel))
  refine ⟨listed, (confined rfl rfl).mpr ?_⟩
  decide +kernel

end Polystore
