/-
**The order in which a document store applies the clauses of a joined query.**

SQL joins, then keeps the rows that meet the conditions, then orders them (`clauseOrdered`). A document
store reads the base collection with the conditions and the order, and joins afterwards.

* `fieldOf_asStored_of_extends`: joins change nothing on the columns of the base collection;
* `Native.ReadsBase.sortedBy_conditioned`: so joined rows come in the order of their documents;
* `select_eq_clauseOrdered`: what a document store gives, and where it is what SQL's order gives;
* `keptRows_ne_clauseOrdered`: where it is not.
-/

import Polystore.Proofs.Joins.Rows
import Polystore.Proofs.Memory.Ordering

namespace Polystore

open Memory Native

/-! ### The two orders -/

namespace Native

/-- A row as its columns are read: with the identifier that it shows as the store keeps it. -/
def asStored (row : Document) : Document :=
  (ObjectIdentifier.nativeField, Predicate.meant idField ((Document.get? idField row).getD .null)) :: row

/-- Whether a document meets the clauses of a query. -/
def accepts (query : Query) (document : Document) : Bool :=
  Clause.hold (Predicate.meets document) query.clauses

/-- **The rows of a query in SQL's order of clauses**: joined, then those that meet the conditions, then
ordered; columns are selected last. What a row lacks reads as null. -/
def clauseOrdered (store : Store) (table : String) (query : Query) : List Document :=
  let joined := joinedRows store query.joins (tableRows store table)
  let kept := joined.filter fun row => accepts query (asStored row)
  selected query (sortedBy (precedes (along asStored (Order.compareAll sortOrder query.orders))) kept)

/-- The rows of a query as a document store orders its clauses: conditions and order are applied to the
documents of the base collection, and what is left is joined. -/
def storeOrdered (store : Store) (table : String) (query : Query) : List Document :=
  let kept := (store.documents table).filter (accepts query)
  let base := (sorted (sort query.orders) kept).map ObjectIdentifier.canonicalDocument
  selected query (joinedRows store query.joins base)

end Native

namespace Query

/-- Whether a query joins, and neither groups nor cuts its rows. -/
def onlyJoins (query : Query) : Bool :=
  query.hasJoins && query.groups.isEmpty && query.distinct.isEmpty && query.offset.isNone
    && query.limit.isNone

/-- The columns that the conditions and the order of a query read. -/
def readColumns (query : Query) : List String :=
  (Clause.leaves query.clauses).filterMap Predicate.column? ++ query.orders.map (·.column)

/-- Whether a column is one of the base collection: it begins with a field that no join shows its rows
under. The identifier is read as a whole, under the name that rows show it under. -/
def isBaseColumn (query : Query) (column : String) : Bool :=
  (Text.segmentsOf '.' column).head?.all fun key =>
    !(query.joins.map (·.target)).contains key &&
      (column == idField || key != idField && key != ObjectIdentifier.nativeField)

end Query

/-! ### How joined rows read -/

section Reading

variable {query : Query} {column key : String} {document base row : Document}

theorem get?_native_asStored (row : Document) :
    Document.get? ObjectIdentifier.nativeField (asStored row) =
      some (Predicate.meant idField ((Document.get? idField row).getD .null)) := rfl

theorem get?_asStored_of_ne (different : key ≠ ObjectIdentifier.nativeField) (row : Document) :
    Document.get? key (asStored row) = Document.get? key row := if_neg (Ne.symm different)

/-- A base column begins with no target of a join. -/
theorem not_mem_targets (based : query.isBaseColumn column = true)
    (first : key ∈ (Text.segmentsOf '.' column).head?) : key ∉ query.joins.map (·.target) := by
  have outside := (Option.all_eq_true _ _).mp based key first
  simp only [Bool.and_eq_true, Bool.not_eq_true', List.contains_eq_mem, decide_eq_false_iff_not]
    at outside
  exact outside.1

/-- A base column other than the identifier begins with a field that rows show as it is stored. -/
theorem ne_of_isBaseColumn (based : query.isBaseColumn column = true) (other : column ≠ idField)
    (first : key ∈ (Text.segmentsOf '.' column).head?) :
    key ≠ idField ∧ key ≠ ObjectIdentifier.nativeField := by
  have outside := (Option.all_eq_true _ _).mp based key first
  simp only [beq_eq_false_iff_ne.mpr other, Bool.false_or, Bool.and_eq_true, bne_iff_ne] at outside
  exact outside.2

/-- **Joins change nothing on a base column.** -/
theorem fieldOf_asStored_of_extends (based : query.isBaseColumn column = true)
    (extended : Extends (query.joins.map (·.target)) base row) :
    Predicate.fieldOf column (asStored row) = Predicate.fieldOf column (asStored base) := by
  unfold Predicate.fieldOf
  by_cases identifies : column = idField
  · subst identifies
    rw [if_pos rfl, Document.atPath?_eq_get? (by decide), Document.atPath?_eq_get? (by decide),
      get?_native_asStored, get?_native_asStored, extended idField (not_mem_targets based rfl)]
  · rw [if_neg identifies]
    refine Document.atPath?_congr fun key first => ?_
    obtain ⟨_, different⟩ := ne_of_isBaseColumn based identifies first
    rw [get?_asStored_of_ne different, get?_asStored_of_ne different,
      extended key (not_mem_targets based first)]

/-- **The row of a document reads on a base column as the document does.** -/
theorem fieldOf_asStored_canonicalDocument (based : query.isBaseColumn column = true)
    (identified : column = idField → ∃ identifier,
      Document.get? ObjectIdentifier.nativeField document = some (.objectId identifier)) :
    Predicate.fieldOf column (asStored (ObjectIdentifier.canonicalDocument document)) =
      Predicate.fieldOf column document := by
  unfold Predicate.fieldOf
  by_cases identifies : column = idField
  · subst identifies
    obtain ⟨identifier, stored⟩ := identified rfl
    have read : Predicate.meant idField ((some (ObjectIdentifier.canonicalValue
        (.objectId identifier))).getD .null) = .objectId identifier := meant_hex identifier
    rw [if_pos rfl, Document.atPath?_eq_get? (by decide), Document.atPath?_eq_get? (by decide), stored,
      get?_native_asStored, ObjectIdentifier.get?_id_canonicalDocument stored, read]
  · rw [if_neg identifies]
    refine Document.atPath?_congr fun key first => ?_
    obtain ⟨other, different⟩ := ne_of_isBaseColumn based identifies first
    rw [get?_asStored_of_ne different, ObjectIdentifier.get?_canonicalDocument_of_ne other different]

/-- The empty row reads as null on every base column. -/
theorem fieldOf_asStored_nil (based : query.isBaseColumn column = true) :
    (Predicate.fieldOf column (asStored [])).filter (!·.isNullish) = none := by
  unfold Predicate.fieldOf
  by_cases identifies : column = idField
  · subst identifies
    rfl
  · have missing : Document.atPath? column (asStored []) = Document.atPath? column [] :=
      Document.atPath?_congr fun key first =>
        get?_asStored_of_ne (ne_of_isBaseColumn based identifies first).2 []
    rw [if_neg identifies, missing, Document.atPath?_nil]
    rfl

/-- Documents with the same field under the column of a condition meet it alike. -/
theorem meets_congr {leaf : Predicate} {left right : Document}
    (same : ∀ column, leaf.column? = some column →
      Predicate.fieldOf column left = Predicate.fieldOf column right) :
    Predicate.meets left leaf = Predicate.meets right leaf := by
  cases leaf with
  | group clauses => rfl
  | raw sql values => rfl
  | _ => simp only [Predicate.meets, same _ rfl]

end Reading

/-! ### Where the two orders agree -/

/-- **When the clauses of a query can be applied before its joins**: they read columns of the base
collection only, identifiers are object identifiers, the order is one of the documents that it is asked
for, and rows that stem from none of them are left out, or nothing is asked of them that would not
leave them last. -/
structure Native.ReadsBase (store : Store) (table : String) (query : Query) : Prop where
  based : ∀ column ∈ query.readColumns, query.isBaseColumn column = true
  identified : idField ∈ query.readColumns → ∀ document ∈ store.documents table, ∃ identifier,
    Document.get? ObjectIdentifier.nativeField document = some (.objectId identifier)
  consistent : Order.areConsistent query.orders
  comparable : ∀ order ∈ query.orders,
    ∀ left ∈ (store.documents table).filter (accepts query),
      ∀ right ∈ (store.documents table).filter (accepts query),
        areComparable (Predicate.fieldOf order.column left) (Predicate.fieldOf order.column right) = true
  unmatched : (∀ join ∈ query.joins, join.kind.keepsUnmatchedJoined = false) ∨
    query.clauses = [] ∧ ∀ order ∈ query.orders, order.direction = .descending

/-- The joined rows of a document. -/
def Native.parts (store : Store) (query : Query) (document : Document) : List Document :=
  joinedRow store query.joins (ObjectIdentifier.canonicalDocument document)

/-- The joined rows of the documents that meet the conditions, and the strays of other rows. -/
def Native.conditioned (store : Store) (table : String) (query : Query) (rows : List Document) :
    List Document :=
  ((store.documents table).filter (accepts query)).flatMap (parts store query) ++
    strays store query.joins rows

section Agreement

variable {store : Store} {table : String} {query : Query} {document other row : Document}
  {rows documents : List Document}

theorem joinedRows_map_canonicalDocument (store : Store) (query : Query) (documents : List Document) :
    joinedRows store query.joins (documents.map ObjectIdentifier.canonicalDocument) =
      documents.flatMap (parts store query) ++
        strays store query.joins (documents.map ObjectIdentifier.canonicalDocument) := by
  rw [joinedRows_eq, List.flatMap_map]
  rfl

theorem mem_readColumns_of_mem_orders {order : Order} (member : order ∈ query.orders) :
    order.column ∈ query.readColumns :=
  List.mem_append_right _ (List.mem_map.mpr ⟨order, member, rfl⟩)

namespace Native.ReadsBase

variable (reads : ReadsBase store table query)

include reads

/-- **A joined row reads as the document that it stems from.** -/
theorem fieldOf_part {column : String} (read : column ∈ query.readColumns)
    (stored : document ∈ store.documents table) (part : row ∈ parts store query document) :
    Predicate.fieldOf column (asStored row) = Predicate.fieldOf column document := by
  have based := reads.based column read
  rw [fieldOf_asStored_of_extends based (extends_of_mem_joinedRow part)]
  refine fieldOf_asStored_canonicalDocument based fun identifies => ?_
  exact reads.identified (identifies ▸ read) document stored

/-- A stray reads as null. -/
theorem fieldOf_stray {column : String} (read : column ∈ query.readColumns)
    (member : row ∈ strays store query.joins rows) :
    (Predicate.fieldOf column (asStored row)).filter (!·.isNullish) = none := by
  have based := reads.based column read
  rw [fieldOf_asStored_of_extends based (extends_of_mem_strays member)]
  exact fieldOf_asStored_nil based

/-- A joined row meets the conditions exactly if its document does. -/
theorem accepts_part (stored : document ∈ store.documents table)
    (part : row ∈ parts store query document) :
    accepts query (asStored row) = accepts query document := by
  refine Clause.hold_congr fun leaf member => meets_congr fun column about => ?_
  have read : column ∈ query.readColumns :=
    List.mem_append_left _ (List.mem_filterMap.mpr ⟨leaf, member, about⟩)
  exact reads.fieldOf_part read stored part

/-- The strays that meet the conditions are those of the base rows that do. -/
theorem filter_strays :
    (strays store query.joins (tableRows store table)).filter (fun row => accepts query (asStored row)) =
      strays store query.joins ((sorted (sort query.orders)
        ((store.documents table).filter (accepts query))).map ObjectIdentifier.canonicalDocument) := by
  rcases reads.unmatched with dropped | ⟨unconditional, _⟩
  · rw [strays_eq_nil dropped, strays_eq_nil dropped]
    rfl
  · have all (document : Document) : accepts query document = true := by
      rw [accepts, unconditional]
      rfl
    rw [List.filter_eq_self.mpr fun row _ => all (asStored row)]
    refine strays_congr fun row => ?_
    rw [tableRows, List.mem_map, List.mem_map]
    refine exists_congr fun document => and_congr_left' ?_
    rw [mem_sorted, List.filter_eq_self.mpr fun document _ => all document]

/-- Joined rows compare as the documents that they stem from. -/
theorem compareAll_part {part otherPart : Document} (fields : Option Value → Option Value → Ordering)
    (stored : document ∈ store.documents table) (among : other ∈ store.documents table)
    (first : part ∈ parts store query document) (second : otherPart ∈ parts store query other) :
    along asStored (Order.compareAll fields query.orders) part otherPart =
      Order.compareAll fields query.orders document other := by
  refine Order.compareAll_congr fun order member => ?_
  have read := mem_readColumns_of_mem_orders member
  rw [reads.fieldOf_part read stored first, reads.fieldOf_part read among second]

/-- No row comes behind a stray. -/
theorem isLE_stray (member : row ∈ strays store query.joins rows) (other : Document) :
    (along asStored (Order.compareAll totalOrder query.orders) other row).isLE = true := by
  rcases reads.unmatched with dropped | ⟨_, descending⟩
  · rw [strays_eq_nil dropped] at member
    cases member
  · exact Order.isLE_compareAll_of_absent descending fun order inside =>
      reads.fieldOf_stray (mem_readColumns_of_mem_orders inside) member

/-- Rows are as comparable as the documents that they stem from, and strays are with everything. -/
theorem areComparable_rows {left right : Document} {order : Order} (member : order ∈ query.orders)
    (first : left ∈ conditioned store table query rows)
    (second : right ∈ conditioned store table query rows) :
    areComparable (Predicate.fieldOf order.column (asStored left))
      (Predicate.fieldOf order.column (asStored right)) = true := by
  have read := mem_readColumns_of_mem_orders member
  rcases List.mem_append.mp first with first | stray
  · rcases List.mem_append.mp second with second | stray
    · obtain ⟨document, inside, part⟩ := List.mem_flatMap.mp first
      obtain ⟨other, among, otherPart⟩ := List.mem_flatMap.mp second
      rw [reads.fieldOf_part read (List.mem_of_mem_filter inside) part,
        reads.fieldOf_part read (List.mem_of_mem_filter among) otherPart]
      exact reads.comparable order member document inside other among
    · exact areComparable_of_right_absent (reads.fieldOf_stray read stray)
  · exact areComparable_of_left_absent (reads.fieldOf_stray read stray)

/-- **Joined rows come in the order of their documents, strays last.** -/
theorem sortedBy_conditioned (rows : List Document) :
    sortedBy (precedes (along asStored (Order.compareAll sortOrder query.orders)))
        (conditioned store table query rows) =
      (sorted (sort query.orders) ((store.documents table).filter (accepts query))).flatMap
          (parts store query) ++ strays store query.joins rows := by
  have ranked : ∀ left ∈ conditioned store table query rows,
      ∀ right ∈ conditioned store table query rows,
        precedes (along asStored (Order.compareAll sortOrder query.orders)) left right =
          precedes (along asStored (Order.compareAll totalOrder query.orders)) left right := by
    intro left first right second
    rw [precedes, precedes, along, along, Order.compareAll_congr fun order member =>
      sortOrder_eq_totalOrder (reads.areComparable_rows member first second)]
  rw [sortedBy_congr ranked, conditioned, sortedBy_append fun stray member row _ =>
      reads.isLE_stray member row,
    sortedBy_flatMap fun left first right second part one other two =>
      reads.compareAll_part totalOrder (List.mem_of_mem_filter first) (List.mem_of_mem_filter second)
        one two,
    sorted_eq_sortedBy reads.consistent reads.comparable]

/-- **Then a document store's order of clauses gives the rows of SQL's.** -/
theorem storeOrdered_eq : storeOrdered store table query = clauseOrdered store table query := by
  have kept : (joinedRows store query.joins (tableRows store table)).filter
        (fun row => accepts query (asStored row)) =
      conditioned store table query ((sorted (sort query.orders)
        ((store.documents table).filter (accepts query))).map ObjectIdentifier.canonicalDocument) := by
    rw [conditioned, ← reads.filter_strays, tableRows, joinedRows_map_canonicalDocument,
      List.filter_append,
      filter_flatMap_of_forall fun document stored row part => reads.accepts_part stored part]
  simp only [storeOrdered, clauseOrdered]
  rw [kept, reads.sortedBy_conditioned, joinedRows_map_canonicalDocument]

end Native.ReadsBase

end Agreement

/-! ### What a document store gives -/

section Selected

variable {scope : Scope} {store : Store} {table : String} {query : Query} {world : World Server}

/-- The rows of a query that only joins. -/
theorem run_selectRows_joined (visible : world.state.visible? scope = some store)
    (bound : query.requireTable = .ok table) (shape : query.onlyJoins = true)
    (clean : ∀ leaf ∈ Clause.leaves query.clauses,
      leaf.isRaw = false ∧ leaf.isPlain = true ∧ leaf.readsIdentifiers = true)
    (sound : SoundJoins store query.joins)
    (distinct : ∀ document ∈ store.documents table, Document.hasDistinctKeys document = true) :
    (selectRows scope query).run Server.driver world =
      (.finished (.ok (storeOrdered store table query)), world) := by
  simp only [Query.onlyJoins, Bool.and_eq_true, List.isEmpty_iff, Option.isNone_iff_eq_none] at shape
  obtain ⟨⟨⟨⟨joins, ungrouped⟩, unrepeated⟩, uncut⟩, unlimited⟩ := shape
  have processed : query.isPostProcessed = true := by simp [Query.isPostProcessed, joins]
  obtain ⟨filter, made, decided⟩ := exists_filter_decides clean
  have reading : Native.read query = .ok (plainRead query filter) := by
    unfold Native.read plainRead
    rw [bound, made, processed, uncut, unlimited]
    rfl
  have whole : listed query (accepts query) (store.documents table) =
      sorted (sort query.orders) ((store.documents table).filter (accepts query)) := by
    rw [listed, uncut, unlimited]
    rfl
  have answered : found (plainRead query filter) (store.documents table) =
      .ok (sorted (sort query.orders) ((store.documents table).filter (accepts query))) := by
    rw [← whole]
    exact found_plainRead fun document _ => decided document
  have rows : ∀ row ∈ (sorted (sort query.orders) ((store.documents table).filter
      (accepts query))).map ObjectIdentifier.canonicalDocument, Document.hasDistinctKeys row = true := by
    intro row member
    obtain ⟨document, inside, rfl⟩ := List.mem_map.mp member
    exact hasDistinctKeys_canonicalDocument
      (distinct document (List.mem_of_mem_filter (mem_sorted.mp inside)))
  rw [run_selectRows visible bound reading answered (run_applyJoins visible sound rows)]
  simp only [windowed, grouped, processed, ungrouped, uncut, unlimited]
  rfl

/-- **The order of clauses of a document store**: conditions and order are applied to the base
collection, and the joins to what is left. That is the order of SQL where the clauses can be applied
before the joins. -/
theorem select_eq_clauseOrdered (visible : world.state.visible? scope = some store)
    (bound : query.requireTable = .ok table) (shape : query.onlyJoins = true)
    (clean : ∀ leaf ∈ Clause.leaves query.clauses,
      leaf.isRaw = false ∧ leaf.isPlain = true ∧ leaf.readsIdentifiers = true)
    (sound : SoundJoins store query.joins)
    (distinct : ∀ document ∈ store.documents table, Document.hasDistinctKeys document = true) :
    (engine.select scope query).run Server.driver world =
        (.finished (.ok (storeOrdered store table query)), world) ∧
      (ReadsBase store table query →
        (engine.select scope query).run Server.driver world =
          (.finished (.ok (clauseOrdered store table query)), world)) := by
  have ran : (engine.select scope query).run Server.driver world = _ :=
    Program.run_orIfInvalidIdentifier_of_ok
      (run_selectRows_joined visible bound shape clean sound distinct)
  refine ⟨ran, fun reads => ?_⟩
  rw [ran, reads.storeOrdered_eq]

end Selected

/-- Two keepers, and three pets of which one has no keeper. -/
def kennel : Store :=
  [("keepers",
    [[("_id", .objectId ⟨1⟩), ("name", .string "Ann")],
      [("_id", .objectId ⟨2⟩), ("name", .string "Bob")]]),
    ("pets",
    [[("_id", .objectId ⟨3⟩), ("keeper", .string "Ann"), ("call", .string "Rex")],
      [("_id", .objectId ⟨4⟩), ("keeper", .string "Bob"), ("call", .string "Ada")],
      [("_id", .objectId ⟨5⟩), ("keeper", .null), ("call", .string "Kit")]])]

/-- The keepers with their pets. -/
def keptPets (kind : JoinKind) (clauses : List Clause) (orders : List Order) : Query :=
  { Query.ofTable "keepers" with
    joins := [⟨kind, "pets", "name", "keeper", "pet"⟩], clauses, orders }

def rex : Document :=
  [("id", .string "000000000000000000000003"), ("keeper", .string "Ann"), ("call", .string "Rex")]

def ada : Document :=
  [("id", .string "000000000000000000000004"), ("keeper", .string "Bob"), ("call", .string "Ada")]

def kit : Document :=
  [("id", .string "000000000000000000000005"), ("keeper", .null), ("call", .string "Kit")]

def annWithRex : Document :=
  [("id", .string "000000000000000000000001"), ("name", .string "Ann"), ("pet", .document rex)]

def bobWithAda : Document :=
  [("id", .string "000000000000000000000002"), ("name", .string "Bob"), ("pet", .document ada)]

/-- The rows that a document store gives. -/
def keptRows (kind : JoinKind) (clauses : List Clause) (orders : List Order) : Outcome (List Document) :=
  ((engine.select .connection (keptPets kind clauses orders)).run Server.driver
    ⟨⟨0, 0⟩, ⟨kennel, none, 0⟩⟩).1

/-- Conditions and orders on base columns leave a left join in the order of SQL. -/
theorem select_eq_clauseOrdered_keepers :
    keptRows .left [(.and, .compare "name" .notEqual (.string "Eve"))]
        [⟨"name", .descending⟩, ⟨"id", .ascending⟩] =
      .finished (.ok [bobWithAda, annWithRex]) := by
  have distinct : ∀ table ∈ ["keepers", "pets"], ∀ document ∈ kennel.documents table,
      Document.hasDistinctKeys document = true := by decide +kernel
  have sound : SoundJoins kennel [⟨.left, "pets", "name", "keeper", "pet"⟩] := by
    refine ⟨?_, ?_, ?_, ?_⟩ <;> rw [List.forall_mem_singleton]
    · decide
    · exact distinct "pets" (by decide)
    · exact fun _ => ⟨by decide, by decide⟩
    · exact fun _ identifies => absurd identifies (by decide)
  have identified : ∀ document ∈ kennel.documents "keepers", ∃ identifier,
      Document.get? ObjectIdentifier.nativeField document = some (.objectId identifier) := by
    intro document member
    change document ∈ [_, _] at member
    simp only [List.mem_cons, List.not_mem_nil, or_false] at member
    rcases member with rfl | rfl <;> exact ⟨_, rfl⟩
  have reads : ReadsBase kennel "keepers"
      (keptPets .left [(.and, .compare "name" .notEqual (.string "Eve"))]
        [⟨"name", .descending⟩, ⟨"id", .ascending⟩]) :=
    { based := by decide +kernel
      identified := fun _ => identified
      consistent := by
        unfold Order.areConsistent
        decide +kernel
      comparable := by decide +kernel
      unmatched := .inl (by decide) }
  have clean : ∀ leaf ∈ [Predicate.compare "name" .notEqual (.string "Eve")],
      leaf.isRaw = false ∧ leaf.isPlain = true ∧ leaf.readsIdentifiers = true := by
    rw [List.forall_mem_singleton]
    decide +kernel
  have ran := (@select_eq_clauseOrdered .connection kennel "keepers"
    (keptPets .left [(.and, .compare "name" .notEqual (.string "Eve"))]
      [⟨"name", .descending⟩, ⟨"id", .ascending⟩])
    ⟨⟨0, 0⟩, ⟨kennel, none, 0⟩⟩ rfl rfl rfl clean sound (distinct "keepers" (by decide))).2 reads
  exact congrArg Prod.fst ran

/-- **Where the order of clauses shows.** A condition on a base column leaves a right join pets whose
keeper it rejected; one on a joined column, and an order by it, are asked of documents that do not have
it; what a right join adds comes last, although it lacks the field that is ordered by; and of two orders
by one field the later one counts. -/
theorem keptRows_ne_clauseOrdered :
    (keptRows .right [(.and, .equal "name" (.string "Ann"))] [] =
        .finished (.ok [annWithRex, [("pet", .document ada)], [("pet", .document kit)]]) ∧
      clauseOrdered kennel "keepers" (keptPets .right [(.and, .equal "name" (.string "Ann"))] []) =
        [annWithRex]) ∧
    (keptRows .inner [(.and, .equal "pet.call" (.string "Rex"))] [] = .finished (.ok []) ∧
      clauseOrdered kennel "keepers" (keptPets .inner [(.and, .equal "pet.call" (.string "Rex"))] []) =
        [annWithRex]) ∧
    (keptRows .left [] [⟨"pet.call", .ascending⟩] = .finished (.ok [annWithRex, bobWithAda]) ∧
      clauseOrdered kennel "keepers" (keptPets .left [] [⟨"pet.call", .ascending⟩]) =
        [bobWithAda, annWithRex]) ∧
    (keptRows .right [] [⟨"name", .ascending⟩] =
        .finished (.ok [annWithRex, bobWithAda, [("pet", .document kit)]]) ∧
      clauseOrdered kennel "keepers" (keptPets .right [] [⟨"name", .ascending⟩]) =
        [[("pet", .document kit)], annWithRex, bobWithAda]) ∧
    (keptRows .left [] [⟨"name", .ascending⟩, ⟨"name", .descending⟩] =
        .finished (.ok [bobWithAda, annWithRex]) ∧
      clauseOrdered kennel "keepers"
          (keptPets .left [] [⟨"name", .ascending⟩, ⟨"name", .descending⟩]) =
        [annWithRex, bobWithAda]) :=
  ⟨⟨rfl, rfl⟩, ⟨rfl, rfl⟩, ⟨rfl, rfl⟩, ⟨rfl, rfl⟩, rfl, rfl⟩

end Polystore
