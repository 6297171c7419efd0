/-
**Writes to the rows with given identifiers.**

A write by identifiers narrows its query by a condition on `id`: it reaches the documents that carry
one of the identifiers and that the clauses of the query accept (`Query.reaches`), whatever `OR` there
is among those clauses.

* `changeIn_of_decides`: a change of a collection under a filter that decides every document;
* `get?_extend`, `keys_extend`: the fields of a document after others are set;
* `exists_run_deletion`, `exists_run_update`: the writes of a query that is narrowed;
* `writes_of_identifiers`: what deletions and updates by identifiers give and leave behind.
-/

import Polystore.Proofs.Clauses.Unreadable
import Polystore.Proofs.Joins.Lookup
import Polystore.Proofs.Memory.Session
import Polystore.Proofs.Rows.RoundTrip
import Polystore.Proofs.Validation.Modes

namespace Polystore

open Memory Native

/-! ### Identifiers that are given and stored -/

/-- The identifier that a value names. -/
def Value.identifier? : Value → Option ObjectId
  | .objectId identifier => some identifier
  | .string text => ObjectId.ofHex? text
  | _ => none

/-- The identifier that a document names under `id`. -/
def Document.named? (document : Document) : Option ObjectId :=
  (Document.get? idField document).bind Value.identifier?

/-- The object identifier that a document is stored under. -/
def Document.carried? (document : Document) : Option ObjectId :=
  match Document.get? ObjectIdentifier.nativeField document with
  | some (.objectId identifier) => some identifier
  | _ => none

/-- **Whether a write by identifiers reaches a document**: it is stored under one of them, and the
clauses of the query hold of it. -/
def Query.reaches (query : Query) (identifiers : List ObjectId) (document : Document) : Bool :=
  Clause.hold (Predicate.meets document) query.clauses
    && (Document.carried? document).any identifiers.contains

section Identifiers

variable {value : Value} {identifier : ObjectId} {document : Document} {documents : List Document}
  {identifiers : List ObjectId}

theorem meant_of_identifier? (names : value.identifier? = some identifier) :
    Predicate.meant idField value = .objectId identifier := by
  cases value with
  | objectId other => exact congrArg Value.objectId (Option.some.inj names)
  | string text =>
    have read : ObjectId.ofHex? text = some identifier := names
    rw [Predicate.meant, if_pos rfl, read]
    rfl
  | _ => cases names

theorem isIdentifier_of_identifier? (names : value.identifier? = some identifier) :
    Predicate.isIdentifier value = true := by
  cases value with
  | objectId other => rfl
  | string text => exact Option.isSome_iff_exists.mpr ⟨identifier, names⟩
  | _ => cases names

theorem exists_get?_of_named? (names : document.named? = some identifier) :
    ∃ value, Document.get? idField document = some value ∧ value.identifier? = some identifier :=
  Option.bind_eq_some_iff.mp names

theorem hasId_of_named? (names : document.named? = some identifier) :
    Document.hasId document = true := by
  obtain ⟨value, found, named⟩ := exists_get?_of_named? names
  rw [Document.hasId, Document.present?, found]
  cases value <;> first | rfl | cases named

/-- Documents that name identifiers have them under `id`. -/
theorem identifier?_of_named? (names : documents.map Document.named? = identifiers.map some) :
    (documents.filterMap (Document.get? idField)).map Value.identifier? = identifiers.map some := by
  induction documents generalizing identifiers with
  | nil => exact names
  | cons document rest hypothesis =>
    cases identifiers with
    | nil => cases names
    | cons identifier others =>
      obtain ⟨first, later⟩ := List.cons.inj names
      obtain ⟨value, found, named⟩ := exists_get?_of_named? first
      rw [List.filterMap_cons_some found, List.map_cons, named, hypothesis later]
      rfl

theorem equalsOperand_carried (carried : document.carried? = some identifier) (other : ObjectId) :
    equalsOperand (Predicate.fieldOf idField document) (.objectId other) = (identifier == other) := by
  show equalsOperand (Document.get? ObjectIdentifier.nativeField document) _ = _
  unfold Document.carried? at carried
  split at carried
  · rename_i own stored
    obtain rfl := Option.some.inj carried
    rw [stored]
    rfl
  · cases carried

/-- A document is among those that values name if it is stored under one of the identifiers. -/
theorem any_equalsOperand_eq {values : List Value} {own : ObjectId}
    (carried : document.carried? = some own)
    (name : values.map Value.identifier? = identifiers.map some) :
    (values.any fun value =>
      equalsOperand (Predicate.fieldOf idField document) (Predicate.meant idField value)) =
        identifiers.contains own := by
  induction values generalizing identifiers with
  | nil =>
    cases identifiers with
    | nil => rfl
    | cons identifier others => cases name
  | cons value rest hypothesis =>
    cases identifiers with
    | nil => cases name
    | cons identifier others =>
      obtain ⟨first, later⟩ := List.cons.inj name
      rw [List.any_cons, meant_of_identifier? first, equalsOperand_carried carried, hypothesis later,
        List.contains_cons]

/-- Among documents with unique identifiers at most one is stored under a given one. -/
theorem length_filter_reaches_le (unique : Unique documents) (query : Query) (identifier : ObjectId) :
    (documents.filter (query.reaches [identifier])).length ≤ 1 := by
  have carries {document : Document} (reached : query.reaches [identifier] document = true) :
      Document.get? ObjectIdentifier.nativeField document = some (.objectId identifier) := by
    obtain ⟨own, carried, among⟩ := (Option.any_eq_true _ _).mp (Bool.and_eq_true_iff.mp reached).2
    obtain rfl := List.mem_singleton.mp (List.contains_iff_mem.mp among)
    unfold Document.carried? at carried
    split at carried
    · rename_i stored
      rw [stored, Option.some.inj carried]
    · cases carried
  have apart : Unique (documents.filter (query.reaches [identifier])) := unique.sublist List.filter_sublist
  match reached : documents.filter (query.reaches [identifier]) with
  | [] => exact Nat.zero_le 1
  | [_] => exact Nat.le_refl 1
  | first :: second :: rest =>
    have inside (document : Document) (member : document ∈ first :: second :: rest) :
        Document.get? ObjectIdentifier.nativeField document = some (.objectId identifier) := by
      rw [← reached] at member
      exact carries (List.mem_filter.mp member).2
    rw [reached] at apart
    have different := (List.pairwise_cons.mp apart).1 second List.mem_cons_self _ _
      (inside first List.mem_cons_self) (inside second (List.mem_cons_of_mem _ List.mem_cons_self))
    exact absurd (different.symm.trans (beq_self_eq_true identifier)) Bool.false_ne_true

theorem length_filter_reaches (unique : Unique documents) {query : Query} {identifier : ObjectId} :
    (documents.filter (query.reaches [identifier])).length =
      if documents.any (query.reaches [identifier]) then 1 else 0 := by
  have single := length_filter_reaches_le unique query identifier
  split
  · rename_i some
    obtain ⟨reached, member, accepts⟩ := List.any_eq_true.mp some
    exact Nat.le_antisymm single (List.length_pos_of_mem (List.mem_filter.mpr ⟨member, accepts⟩))
  · rename_i none
    rw [List.any_eq_true] at none
    refine List.length_eq_zero_iff.mpr (List.filter_eq_nil_iff.mpr fun reached member accepts => ?_)
    exact none ⟨reached, member, accepts⟩

end Identifiers

/-! ### Fields that are set -/

namespace Document

variable {fields : Document} {key : String}

/-- Fields that are set hide those that were there. -/
theorem get?_extend (distinct : (keys fields).Nodup) (key : String) (document : Document) :
    get? key (extend document fields) = (get? key fields).or (get? key document) := by
  cases found : get? key fields with
  | none => exact get?_extend_of_none found document
  | some value => exact get?_extend_of_some distinct found document

/-- Fields stay where they are; the new ones follow. -/
theorem keys_extend (distinct : (keys fields).Nodup) (document : Document) :
    keys (extend document fields) =
      keys document ++ (keys fields).filter fun key => key ∉ keys document := by
  induction fields generalizing document with
  | nil => exact (List.append_nil _).symm
  | cons field rest hypothesis =>
    obtain ⟨name, value⟩ := field
    obtain ⟨fresh, others⟩ := List.nodup_cons.mp distinct
    show keys (extend (insert name value document) rest) = keys document ++ (name :: keys rest).filter _
    rw [hypothesis others, keys_insert]
    split
    · rename_i present
      rw [List.filter_cons_of_neg (by simpa using present)]
    · rename_i absent
      rw [List.filter_cons_of_pos (by simpa using absent), List.append_assoc, List.singleton_append]
      congr 2
      refine List.filter_congr fun key member => decide_eq_decide.mpr ?_
      have different : key ≠ name := fun same => fresh (same ▸ member)
      rw [List.mem_append, List.mem_singleton, or_iff_left different]

/-- **What setting fields makes of a document**: their keys lead to the new values, every other key to
the old one, and the fields that were there keep their places. -/
structure Sets (fields old new : Document) : Prop where
  values : ∀ key, get? key new = (get? key fields).or (get? key old)
  order : keys new = keys old ++ (keys fields).filter fun key => key ∉ keys old

theorem sets_extend (distinct : (keys fields).Nodup) (document : Document) :
    Sets fields document (extend document fields) :=
  ⟨fun key => get?_extend distinct key document, keys_extend distinct document⟩

end Document

theorem Document.withoutId_withoutId (document : Document) :
    withoutId (withoutId document) = withoutId document :=
  erase_of_not_mem_keys (not_mem_keys_erase idField document)

/-! ### Changes of a collection -/

section Changes

variable {name : String} {filter : Document} {new? : Document → Option Document}
  {accepts : Document → Bool} {documents : List Document} {store : Store}

/-- What becomes of the documents of a collection when the accepted ones are changed. -/
def Memory.changed (accepts : Document → Bool) (new? : Document → Option Document)
    (documents : List Document) : List Document :=
  documents.flatMap fun document => if accepts document then (new? document).toList else [document]

theorem changed_none : changed accepts (fun _ => none) documents = documents.filter (!accepts ·) := by
  induction documents with
  | nil => rfl
  | cons document rest hypothesis =>
    rw [changed] at hypothesis ⊢
    rw [List.flatMap_cons, hypothesis, List.filter_cons]
    cases accepts document <;> rfl

theorem changed_some (change : Document → Document) :
    changed accepts (fun document => some (change document)) documents =
      documents.map fun document => if accepts document then change document else document := by
  induction documents with
  | nil => rfl
  | cons document rest hypothesis =>
    rw [changed] at hypothesis ⊢
    rw [List.flatMap_cons, hypothesis, List.map_cons]
    cases accepts document <;> rfl

theorem change_of_decides
    (decides : ∀ document ∈ documents, passes document filter = .ok (accepts document)) :
    Store.change filter new? documents =
      .ok (changed accepts new? documents, (documents.filter accepts).length) := by
  induction documents with
  | nil => rfl
  | cons document rest hypothesis =>
    rw [Store.change, decides document List.mem_cons_self,
      hypothesis fun other member => decides other (List.mem_cons_of_mem _ member)]
    cases accepted : accepts document with
    | false =>
      rw [List.filter_cons_of_neg (by rw [accepted]; exact Bool.false_ne_true)]
      simp only [changed, List.flatMap_cons, accepted]
      rfl
    | true =>
      rw [List.filter_cons_of_pos accepted]
      simp only [changed, List.flatMap_cons, accepted]
      rfl

/-- **A change under a filter that decides every document**: how many are accepted, and what becomes of
the collection. Every other collection stays. -/
theorem changeIn_of_decides
    (decides : ∀ document ∈ store.documents name, passes document filter = .ok (accepts document)) :
    (store.changeIn name filter new?).1 = .ok ((store.documents name).filter accepts).length ∧
      ∀ other, (store.changeIn name filter new?).2.documents other =
        if other = name then changed accepts new? (store.documents name) else store.documents other := by
  unfold Store.changeIn
  cases found : store.get? name with
  | none =>
    have empty := Store.documents_of_none found
    rw [empty]
    refine ⟨rfl, fun other => ?_⟩
    show store.documents other = if other = name then [] else store.documents other
    split
    · rename_i same
      rw [same]
      exact empty
    · rfl
  | some documents =>
    rw [Store.documents_of_some found] at decides ⊢
    simp only
    rw [change_of_decides decides]
    exact ⟨rfl, fun other => documents_put name other _ store⟩

end Changes

/-! ### Narrowed writes -/

/-- **What a write leaves behind**: the documents of its collection, and every other collection as it
was. It draws no identifiers. -/
structure Leaves (scope : Scope) (table : String) (store : Store) (world later : World Server)
    (documents : List Document) : Prop where
  identifiers : later.identifiers = world.identifiers
  visible : ∃ left, later.state.visible? scope = some left ∧
    ∀ name, left.documents name = if name = table then documents else store.documents name

section Writes

variable {scope : Scope} {validator : Validator} {query : Query} {table : String} {store : Store}
  {world : World Server} {condition : Predicate}

theorem leaves_narrowed (query : Query) (condition : Predicate) :
    Clause.leaves (query.narrowed condition).clauses =
      Clause.leaves query.clauses ++ condition.leaves := by
  unfold Query.narrowed
  cases query.clauses with
  | nil =>
    show condition.leaves ++ [] = [] ++ condition.leaves
    rw [List.append_nil, List.nil_append]
  | cons clause rest =>
    show Clause.leaves (clause :: rest) ++ (condition.leaves ++ []) = _
    rw [List.append_nil]

/-- A narrowed query has a filter that decides every document. -/
theorem exists_filter_narrowed
    (clean : ∀ leaf ∈ Clause.leaves query.clauses,
      leaf.isRaw = false ∧ leaf.isPlain = true ∧ leaf.readsIdentifiers = true)
    (cleanly : ∀ leaf ∈ condition.leaves,
      leaf.isRaw = false ∧ leaf.isPlain = true ∧ leaf.readsIdentifiers = true) :
    ∃ filter, Native.filter (query.narrowed condition).clauses = .ok filter ∧
      ∀ document, passes document filter =
        .ok (Clause.hold (Predicate.meets document) query.clauses
          && condition.truth (Predicate.meets document)) := by
  obtain ⟨filter, made, decided⟩ := @exists_filter_decides (query.narrowed condition).clauses
    fun leaf member => by
      rw [leaves_narrowed] at member
      exact (List.mem_append.mp member).elim (clean leaf) (cleanly leaf)
  refine ⟨filter, made, fun document => ?_⟩
  rw [decided, hold_clauses_narrowed]

/-- A write that is answered by a change of its collection. -/
theorem exists_run_ask {request : Call} {result : Except DatabaseError (Native.interface.Reply request)}
    {documents : List Document} (visible : world.state.visible? scope = some store)
    (data : isData request = true) (answered : (store.answer request).1 = result)
    (left : ∀ name, (store.answer request).2.documents name =
      if name = table then documents else store.documents name) :
    ∃ later, (Program.ask Native.interface scope request).run Server.driver world =
        (.finished result, later) ∧ Leaves scope table store world later documents := by
  obtain ⟨next, given, sees, _⟩ := Server.exists_answer visible data
  rw [answered] at given
  exact ⟨{ world with state := next }, Program.run_ask_of_given given, rfl, _, sees, left⟩

/-- **A deletion** removes the accepted documents. -/
theorem exists_run_deletion {accepts : Document → Bool} {filter : Document}
    (visible : world.state.visible? scope = some store) (bound : query.requireTable = .ok table)
    (unjoined : query.joins = []) (made : Native.filter query.clauses = .ok filter)
    (decides : ∀ document ∈ store.documents table, passes document filter = .ok (accepts document)) :
    ∃ later, ((connected scope validator).execute query .delete).run Server.driver world =
        (.finished (.ok (.count ((store.documents table).filter accepts).length)), later) ∧
      Leaves scope table store world later ((store.documents table).filter (!accepts ·)) := by
  obtain ⟨counted, left⟩ := @changeIn_of_decides table filter (fun _ => none) accepts store decides
  rw [changed_none] at left
  obtain ⟨later, asked, leaves⟩ :=
    @exists_run_ask scope table store world (.delete table filter) _ _ visible rfl counted left
  refine ⟨later, ?_, leaves⟩
  show (executeQuery scope { query with mutation := .delete }).run _ _ = _
  rw [executeQuery_delete scope bound unjoined, made]
  exact Program.run_bind_of_ok asked _

/-- **An update** sets fields of the accepted documents. -/
theorem exists_run_update {accepts : Document → Bool} {filter values : Document}
    (visible : world.state.visible? scope = some store) (bound : query.requireTable = .ok table)
    (unjoined : query.joins = []) (made : Native.filter query.clauses = .ok filter)
    (decides : ∀ document ∈ store.documents table, passes document filter = .ok (accepts document))
    (filled : (Document.withoutUndefined (Document.withoutId values)).isEmpty = false) :
    ∃ later, ((connected scope validator).execute query (.update values)).run Server.driver world =
        (.finished (.ok (.count ((store.documents table).filter accepts).length)), later) ∧
      Leaves scope table store world later ((store.documents table).map fun document =>
        if accepts document then
          Document.extend document (Document.withoutUndefined (Document.withoutId values))
        else document) := by
  obtain ⟨counted, left⟩ := @changeIn_of_decides table filter (fun document =>
    some (Document.extend document (Document.withoutUndefined (Document.withoutId values)))) accepts store
    decides
  rw [changed_some] at left
  obtain ⟨later, asked, leaves⟩ := @exists_run_ask scope table store world
    (.update table filter (Document.withoutUndefined (Document.withoutId values))) _ _ visible rfl
    counted left
  refine ⟨later, ?_, leaves⟩
  show (executeQuery scope { query with mutation := .update values }).run _ _ = _
  rw [executeQuery_update scope bound unjoined, made]
  simp only [filled]
  exact Program.run_bind_of_ok asked _

end Writes

/-! ### Writes by identifiers -/

section Targets

variable {scope : Scope} {validator : Validator} {query : Query} {table : String} {store : Store}
  {world : World Server}

/-- A query that is narrowed to identifiers accepts what its writes reach. -/
theorem exists_filter_reaches {condition : Predicate} {identifiers : List ObjectId}
    (clean : ∀ leaf ∈ Clause.leaves query.clauses,
      leaf.isRaw = false ∧ leaf.isPlain = true ∧ leaf.readsIdentifiers = true)
    (alone : condition.leaves = [condition]) (written : condition.isRaw = false)
    (column : condition.column? = some idField)
    (readable : ∀ value ∈ condition.operands, Predicate.isIdentifier value = true)
    (asks : ∀ document own, Document.carried? document = some own →
      condition.truth (Predicate.meets document) = identifiers.contains own) :
    ∃ filter, Native.filter (query.narrowed condition).clauses = .ok filter ∧
      ∀ document, document.carried?.isSome = true →
        passes document filter = .ok (query.reaches identifiers document) := by
  obtain ⟨filter, made, decided⟩ := @exists_filter_narrowed query condition clean
    fun leaf member => by
      rw [alone] at member
      obtain rfl := List.mem_singleton.mp member
      have plain : Text.startsWith "$" idField = false := by decide
      refine ⟨written, ?_, ?_⟩
      · rw [Predicate.isPlain, column, Option.all_some, plain]
        rfl
      · rw [Predicate.readsIdentifiers, Bool.or_eq_true]
        exact .inr (List.all_eq_true.mpr readable)
  refine ⟨filter, made, fun document identified => ?_⟩
  obtain ⟨own, carried⟩ := Option.isSome_iff_exists.mp identified
  rw [decided, asks document own carried, Query.reaches, carried]
  rfl

/-- The narrowed query of a deletion. -/
theorem exists_filter_oneOf {values : List Value} {identifiers : List ObjectId}
    (clean : ∀ leaf ∈ Clause.leaves query.clauses,
      leaf.isRaw = false ∧ leaf.isPlain = true ∧ leaf.readsIdentifiers = true)
    (name : values.map Value.identifier? = identifiers.map some) :
    ∃ filter,
      Native.filter (query.narrowed (.oneOf idField values false)).clauses = .ok filter ∧
        ∀ document, document.carried?.isSome = true →
          passes document filter = .ok (query.reaches identifiers document) := by
  refine exists_filter_reaches clean rfl rfl rfl (fun value member => ?_) fun document own carried => ?_
  · have named := List.mem_map_of_mem (f := Value.identifier?) (show value ∈ values from member)
    rw [name] at named
    obtain ⟨identifier, _, same⟩ := List.mem_map.mp named
    exact isIdentifier_of_identifier? same.symm
  · show (false != values.any _) = _
    rw [Bool.false_bne, any_equalsOperand_eq carried name]

/-- The narrowed query of an update. -/
theorem exists_filter_equal {value : Value} {identifier : ObjectId}
    (clean : ∀ leaf ∈ Clause.leaves query.clauses,
      leaf.isRaw = false ∧ leaf.isPlain = true ∧ leaf.readsIdentifiers = true)
    (names : value.identifier? = some identifier) :
    ∃ filter, Native.filter (query.narrowed (.equal idField value)).clauses = .ok filter ∧
      ∀ document, document.carried?.isSome = true →
        passes document filter = .ok (query.reaches [identifier] document) := by
  refine exists_filter_reaches clean rfl rfl rfl (fun other member => ?_) fun document own carried => ?_
  · obtain rfl := List.mem_singleton.mp member
    exact isIdentifier_of_identifier? names
  · show equalsOperand (Predicate.fieldOf idField document) (Predicate.meant idField value) = _
    rw [meant_of_identifier? names, equalsOperand_carried carried, List.contains_cons]
    exact (Bool.or_false _).symm

/-- A deletion without documents reaches nothing. -/
theorem leaves_nothing (visible : world.state.visible? scope = some store) :
    Leaves scope table store world world ((store.documents table).filter (!query.reaches [] ·)) := by
  have all : (store.documents table).filter (!query.reaches [] ·) = store.documents table := by
    refine List.filter_eq_self.mpr fun document _ => ?_
    rw [Query.reaches]
    cases document.carried? <;> simp
  refine ⟨rfl, store, visible, fun name => ?_⟩
  split
  · rename_i same
    rw [all, same]
  · rfl

/-- **What a deletion by identifiers removes.** -/
theorem exists_run_deleteMany (visible : world.state.visible? scope = some store)
    (bound : query.requireTable = .ok table) (unjoined : query.joins = [])
    (clean : ∀ leaf ∈ Clause.leaves query.clauses,
      leaf.isRaw = false ∧ leaf.isPlain = true ∧ leaf.readsIdentifiers = true)
    (identified : ∀ document ∈ store.documents table, document.carried?.isSome = true)
    {documents : List Document} {identifiers : List ObjectId}
    (name : documents.map Document.named? = identifiers.map some) :
    ∃ later, ((connected scope validator).deleteMany query documents).run Server.driver world =
        (.finished (.ok ((store.documents table).filter (query.reaches identifiers)).length), later) ∧
      Leaves scope table store world later
        ((store.documents table).filter (!query.reaches identifiers ·)) := by
  have accepted : (connected scope validator).validator.requireIdentifiers true documents = .ok true := by
    refine Validator.requireIdentifiers_of_forall fun document member => ?_
    have named := List.mem_map_of_mem (f := Document.named?) member
    rw [name] at named
    obtain ⟨identifier, _, same⟩ := List.mem_map.mp named
    exact hasId_of_named? same.symm
  unfold Connection.deleteMany
  rw [Program.run_bind_of_ok (Program.run_ofExcept_ok.mpr ⟨bound, rfl⟩),
    Program.run_bind_of_ok (Program.run_ofExcept_ok.mpr ⟨accepted, rfl⟩)]
  cases documents with
  | nil =>
    obtain rfl : identifiers = [] := List.map_eq_nil_iff.mp name.symm
    have nothing : (store.documents table).filter (query.reaches []) = [] := by
      refine List.filter_eq_nil_iff.mpr fun document _ => ?_
      rw [Query.reaches]
      cases document.carried? <;> simp
    rw [nothing]
    exact ⟨world, rfl, leaves_nothing visible⟩
  | cons document rest =>
    obtain ⟨filter, made, decided⟩ := exists_filter_oneOf clean (identifier?_of_named? name)
    obtain ⟨later, deleted, leaves⟩ := @exists_run_deletion scope validator
      (query.narrowed (.oneOf idField _ false)) table store world _ filter visible bound unjoined made
      fun document member => decided document (identified document member)
    exact ⟨later, Program.run_bind_of_ok deleted _, leaves⟩

/-- **What an update by an identifier sets.** -/
theorem exists_run_updateMany (visible : world.state.visible? scope = some store)
    (bound : query.requireTable = .ok table) (unjoined : query.joins = [])
    (clean : ∀ leaf ∈ Clause.leaves query.clauses,
      leaf.isRaw = false ∧ leaf.isPlain = true ∧ leaf.readsIdentifiers = true)
    (identified : ∀ document ∈ store.documents table, document.carried?.isSome = true)
    (unique : Unique (store.documents table)) {document : Document} {identifier : ObjectId}
    (names : document.named? = some identifier)
    (filled : (Document.withoutUndefined (Document.withoutId document)).isEmpty = false) :
    ∃ later, ((connected scope validator).updateMany query [document]).run Server.driver world =
        (.finished (.ok (if (store.documents table).any (query.reaches [identifier]) then 1 else 0)),
          later) ∧
      Leaves scope table store world later ((store.documents table).map fun old =>
        if query.reaches [identifier] old then
          Document.extend old (Document.withoutUndefined (Document.withoutId document))
        else old) := by
  have accepted : (connected scope validator).validator.requireIdentifiers true [document] = .ok true := by
    refine Validator.requireIdentifiers_of_forall fun other member => ?_
    obtain rfl := List.mem_singleton.mp member
    exact hasId_of_named? names
  obtain ⟨value, found, named⟩ := exists_get?_of_named? names
  obtain ⟨filter, made, decided⟩ := exists_filter_equal clean named
  have shown : (Document.get? idField document).getD .null = value := by
    rw [found]
    rfl
  rw [← shown] at made
  obtain ⟨later, updated, leaves⟩ := @exists_run_update scope validator
    (query.narrowed (.equal idField ((Document.get? idField document).getD .null))) table store world _
    filter (Document.withoutId document) visible bound unjoined made
    (fun document member => decided document (identified document member))
    (by rwa [Document.withoutId_withoutId])
  rw [length_filter_reaches unique] at updated
  rw [Document.withoutId_withoutId] at leaves
  refine ⟨later, ?_, leaves⟩
  unfold Connection.updateMany
  rw [Program.run_bind_of_ok (Program.run_ofExcept_ok.mpr ⟨bound, rfl⟩),
    Program.run_bind_of_ok (Program.run_ofExcept_ok.mpr ⟨accepted, rfl⟩)]
  exact Program.run_bind_of_ok updated _

/-- **Writes by identifiers touch only their rows.** A deletion removes the documents that it reaches,
and leaves the others in order. An update with something to set sets it on the document that it reaches,
if there is one. Both tell how many documents they reached, and every other collection stays. -/
theorem writes_of_identifiers (visible : world.state.visible? scope = some store)
    (bound : query.requireTable = .ok table) (unjoined : query.joins = [])
    (clean : ∀ leaf ∈ Clause.leaves query.clauses,
      leaf.isRaw = false ∧ leaf.isPlain = true ∧ leaf.readsIdentifiers = true)
    (identified : ∀ document ∈ store.documents table, document.carried?.isSome = true)
    (unique : Unique (store.documents table)) :
    (∀ (documents : List Document) (identifiers : List ObjectId),
      documents.map Document.named? = identifiers.map some →
      ∃ later, ((connected scope validator).deleteMany query documents).run Server.driver world =
          (.finished (.ok ((store.documents table).filter (query.reaches identifiers)).length), later) ∧
        Leaves scope table store world later
          ((store.documents table).filter (!query.reaches identifiers ·))) ∧
    ∀ (document : Document) (identifier : ObjectId),
      document.named? = some identifier → (Document.keys document).Nodup →
      (Document.withoutUndefined (Document.withoutId document)).isEmpty = false →
      ∃ later documents,
        ((connected scope validator).updateMany query [document]).run Server.driver world =
          (.finished
            (.ok (if (store.documents table).any (query.reaches [identifier]) then 1 else 0)), later) ∧
        Leaves scope table store world later documents ∧
        List.Forall₂ (fun old new =>
          if query.reaches [identifier] old then
            Document.Sets (Document.withoutUndefined (Document.withoutId document)) old new
          else new = old) (store.documents table) documents := by
  constructor
  · intro documents identifiers name
    exact exists_run_deleteMany visible bound unjoined clean identified name
  · intro document identifier names distinct filled
    obtain ⟨later, updated, leaves⟩ := @exists_run_updateMany scope validator query table store
      world visible bound unjoined clean identified unique document identifier names filled
    refine ⟨later, _, updated, leaves, ?_⟩
    refine List.forall₂_map_right_iff.mpr (List.forall₂_same.mpr fun old _ => ?_)
    split
    · exact Document.sets_extend (Document.nodup_keys_filter (Document.nodup_keys_filter distinct _) _) old
    · rfl

end Targets

/-- Two identifiers, of which the clauses accept one, and an update of that document. -/
theorem writes_of_annOrEve :
    (∃ later, ((connected .connection .raising).deleteMany annOrEve
          [[("id", .string "000000000000000000000001")], [("id", .objectId ⟨2⟩)]]).run Server.driver
            ⟨⟨0, 0⟩, ⟨people, none, 0⟩⟩ = (.finished (.ok 1), later) ∧
        Leaves .connection "people" people ⟨⟨0, 0⟩, ⟨people, none, 0⟩⟩ later
          [[("_id", .objectId ⟨2⟩), ("name", .string "Bob")]]) ∧
      ∃ later new, ((connected .connection .raising).updateMany annOrEve
          [[("age", .int32 7), ("id", .objectId ⟨1⟩), ("name", .string "Eve")]]).run Server.driver
            ⟨⟨0, 0⟩, ⟨people, none, 0⟩⟩ = (.finished (.ok 1), later) ∧
        Leaves .connection "people" people ⟨⟨0, 0⟩, ⟨people, none, 0⟩⟩ later
          [new, [("_id", .objectId ⟨2⟩), ("name", .string "Bob")]] ∧
        Document.Sets [("age", .int32 7), ("name", .string "Eve")]
          [("_id", .objectId ⟨1⟩), ("name", .string "Ann")] new := by
  have clean : ∀ leaf ∈ Clause.leaves annOrEve.clauses,
      leaf.isRaw = false ∧ leaf.isPlain = true ∧ leaf.readsIdentifiers = true := by decide +kernel
  have identified : ∀ document ∈ people.documents "people", document.carried?.isSome = true := by
    decide +kernel
  have unique : Unique (people.documents "people") := by
    refine List.pairwise_pair.mpr fun one other first second => ?_
    obtain rfl := Option.some.inj first
    obtain rfl := Option.some.inj second
    rfl
  obtain ⟨deletes, updates⟩ := @writes_of_identifiers .connection .raising annOrEve "people" people
    ⟨⟨0, 0⟩, ⟨people, none, 0⟩⟩ rfl rfl rfl clean identified unique
  refine ⟨deletes _ [⟨1⟩, ⟨2⟩] rfl, ?_⟩
  obtain ⟨later, documents, ran, leaves, changes⟩ :=
    updates [("age", .int32 7), ("id", .objectId ⟨1⟩), ("name", .string "Eve")] ⟨1⟩ rfl (by decide) rfl
  match documents, changes with
  | [new, other], .cons sets (.cons kept .nil) =>
    obtain rfl : other = [("_id", .objectId ⟨2⟩), ("name", .string "Bob")] := kept
    exact ⟨later, new, ran, leaves, sets⟩

end Polystore
