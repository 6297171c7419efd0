/-
**Rows that are inserted and looked up again.**

An insertion gives its document a fresh identifier under `_id` and writes the fields of the document
behind it. A field `_id` of the document itself takes the place of that identifier: nothing else stands
between an inserted row and the one that is found by its identifier.

* `canonicalDocument_identified`: the row of a new document;
* `exists_run_insertOne`: what an insertion gives and leaves behind;
* `run_findById_last`: the newest document of a collection is found by its identifier;
* `roundTrip_iff`: insertions round-trip, unless the document has a field `_id`.
-/

import Polystore.Proofs.Joins.Lookup
import Polystore.Proofs.Memory.Identifiers
import Polystore.Proofs.Program.Reading
import Polystore.Proofs.Rows.Lookup

namespace Polystore

open Memory Native

/-! ### New documents -/

namespace Document

variable {document fields : Document} {key : String}

theorem get?_of_not_mem_keys (absent : key ∉ keys document) : get? key document = none :=
  Option.not_isSome_iff_eq_none.mp fun present => absent (contains_iff.mp present)

theorem erase_of_not_mem_keys (absent : key ∉ keys document) : erase key document = document := by
  refine List.filter_eq_self.mpr fun field member => decide_eq_true fun same => absent ?_
  exact List.mem_map.mpr ⟨field, member, same⟩

theorem not_mem_keys_erase (key : String) (document : Document) : key ∉ keys (erase key document) :=
  fun member => by
    have present := contains_iff.mpr member
    rw [contains, get?_erase_self] at present
    cases present

theorem nodup_keys_filter (distinct : (keys document).Nodup) (keeps : String × Value → Bool) :
    (keys (document.filter keeps)).Nodup :=
  distinct.sublist (List.filter_sublist.map Prod.fst)

/-- Fields that are left out take no identifier with them. -/
theorem hasId_filter (distinct : (keys document).Nodup) (anonymous : hasId document = false)
    (keeps : String × Value → Bool) : hasId (document.filter keeps) = false := by
  cases found : get? idField (document.filter keeps) with
  | none =>
    rw [hasId, present?, found]
    rfl
  | some value =>
    have before : get? idField document = some value :=
      get?_of_mem distinct (List.mem_of_mem_filter (mem_of_get? found))
    rw [hasId, present?, before] at anonymous
    rw [hasId, present?, found, anonymous]

/-- Fields with keys of their own are written behind those that are there. -/
theorem extend_of_disjoint (distinct : (keys fields).Nodup)
    (apart : ∀ key ∈ keys fields, key ∉ keys document) : extend document fields = document ++ fields := by
  induction fields generalizing document with
  | nil => exact (List.append_nil _).symm
  | cons field rest hypothesis =>
    obtain ⟨name, value⟩ := field
    obtain ⟨fresh, others⟩ := List.nodup_cons.mp distinct
    show extend (insert name value document) rest = _
    rw [insert_of_not_mem_keys (apart name List.mem_cons_self), hypothesis others, List.append_assoc]
    · rfl
    · intro key member known
      rw [keys, List.map_append, List.mem_append] at known
      rcases known with earlier | single
      · exact apart key (List.mem_cons_of_mem _ member) earlier
      · obtain rfl := List.mem_singleton.mp single
        exact fresh member

end Document

section Documents

variable {document : Document} {identifier : ObjectId}

/-- **The row of a new document** shows its identifier in front of its fields. -/
theorem canonicalDocument_identified (distinct : (Document.keys document).Nodup)
    (free : ObjectIdentifier.nativeField ∉ Document.keys document) :
    ObjectIdentifier.canonicalDocument (ObjectIdentifier.identified identifier document) =
      (idField, .string identifier.hex) :: Document.erase idField document := by
  have kept : ObjectIdentifier.nativeField ∉ Document.keys (Document.erase idField document) :=
    fun member => free ((List.filter_sublist.map Prod.fst).subset member)
  have native : ObjectIdentifier.identified identifier document =
      (ObjectIdentifier.nativeField, .objectId identifier) :: Document.erase idField document := by
    refine Document.extend_of_disjoint (Document.nodup_keys_filter distinct _) ?_
    intro key member known
    obtain rfl := List.mem_singleton.mp known
    exact kept member
  have bare : Document.erase ObjectIdentifier.nativeField
      ((ObjectIdentifier.nativeField, .objectId identifier) :: Document.erase idField document) =
      Document.erase idField document := by
    show Document.erase ObjectIdentifier.nativeField (Document.erase idField document) = _
    exact Document.erase_of_not_mem_keys kept
  rw [native, ObjectIdentifier.canonicalDocument, Document.get?, if_pos rfl]
  simp only
  rw [bare, Document.erase_of_not_mem_keys (Document.not_mem_keys_erase idField document)]
  rfl

theorem get?_native_identified
    (free : ObjectIdentifier.nativeField ∉ Document.keys document) :
    Document.get? ObjectIdentifier.nativeField (ObjectIdentifier.identified identifier document) =
      some (.objectId identifier) := by
  have absent : Document.get? ObjectIdentifier.nativeField (Document.erase idField document) = none := by
    rw [Document.get?_erase_of_ne (by decide)]
    exact Document.get?_of_not_mem_keys free
  rw [ObjectIdentifier.identified, Document.get?_extend_of_none absent]
  rfl

end Documents

/-! ### An insertion and a lookup -/

section Runs

variable {scope : Scope} {validator : Validator} {table : String} {document native : Document}
  {store : Store} {world : World Server} {identifier : ObjectId}

theorem requireTable_ofTable (named : table ≠ "") : (Query.ofTable table).requireTable = .ok table :=
  if_neg named

/-- A document as it is stored, with the next identifier. -/
def stored (world : World Server) (document : Document) : Document :=
  ObjectIdentifier.identified (ObjectId.ofDraw world.identifiers.next.1)
    (Document.withoutUndefined document)

/-- **What an insertion of a document without an identifier gives**, and what it leaves to the scope that
it came through. -/
theorem exists_run_insertOne (visible : world.state.visible? scope = some store) (named : table ≠ "")
    (anonymous : Document.hasId document = false)
    (defined : Document.hasId (Document.withoutUndefined document) = false) :
    ∃ later : World Server,
      ((Connection.mk engine scope validator).insertOne (Query.ofTable table) document).run
          Server.driver world =
        (.finished ((store.insert table [stored world document]).1.map fun _ =>
          ObjectIdentifier.canonicalDocument (stored world document)), later) ∧
      later.state.visible? scope = some (store.insert table [stored world document]).2 := by
  obtain ⟨next, answered, sees, _⟩ := @Server.exists_answer world.state scope store
    (.insert table [stored world document]) visible rfl
  let drawn : World Server := ⟨world.identifiers.next.2, world.state⟩
  refine ⟨⟨world.identifiers.next.2, next⟩, ?_, sees⟩
  have asked : (Program.ask Native.interface scope (Call.insert table [stored world document])).run
      Server.driver drawn = (.finished (store.insert table [stored world document]).1,
        ⟨world.identifiers.next.2, next⟩) := Program.run_ask_of_given answered
  have natives : (nativeDocuments [document]).run Server.driver world =
      (.finished (.ok [stored world document]), drawn) := by
    unfold nativeDocuments
    simp only
    rw [defined]
    rfl
  have inserts : (engine.execute scope { Query.ofTable table with mutation := .insert [document] }).run
      Server.driver world = (.finished ((store.insert table [stored world document]).1.map fun _ =>
        ⟨1, [ObjectIdentifier.canonicalDocument (stored world document)]⟩),
        ⟨world.identifiers.next.2, next⟩) := by
    show (executeQuery scope { Query.ofTable table with mutation := .insert [document] }).run _ _ = _
    unfold executeQuery
    refine (Program.run_bind_of_ok
      (Program.run_ofExcept_ok.mpr ⟨requireTable_ofTable named, rfl⟩) _).trans ?_
    show (insertRows scope table [document]).run _ _ = _
    unfold insertRows
    rw [Program.run_bind_of_ok natives]
    exact Program.run_bind_pure asked _
  have accepted : validator.requireIdentifiers false [document] = .ok true := by
    unfold Validator.requireIdentifiers
    simp [anonymous]
  have many : ((Connection.mk engine scope validator).insertMany (Query.ofTable table) [document]).run
      Server.driver world = (.finished ((store.insert table [stored world document]).1.map fun _ =>
        [ObjectIdentifier.canonicalDocument (stored world document)]),
        ⟨world.identifiers.next.2, next⟩) := by
    unfold Connection.insertMany
    rw [Program.run_bind_of_ok (Program.run_ofExcept_ok.mpr ⟨requireTable_ofTable named, rfl⟩),
      Program.run_bind_of_ok (Program.run_ofExcept_ok.mpr ⟨accepted, rfl⟩)]
    refine (Program.run_bind_pure inserts WriteOutcome.inserted).trans ?_
    cases (store.insert table [stored world document]).1 <;> rfl
  unfold Connection.insertOne
  rw [Program.run_bind, many]
  cases (store.insert table [stored world document]).1 <;> rfl

/-- **Whether an identifier is new to documents**: none shows it, and none is found by it. -/
def IsNew (identifier : ObjectId) (documents : List Document) : Prop :=
  ∀ document ∈ documents,
    Document.get? idField (ObjectIdentifier.canonicalDocument document) ≠
      some (.string identifier.hex) ∧
    equalsOperand (Document.get? ObjectIdentifier.nativeField document) (.objectId identifier) = false

/-- Where all documents carry object identifiers, every other one is new. -/
theorem isNew_of_ne {documents : List Document}
    (other : ∀ document ∈ documents, ∃ known,
      Document.get? ObjectIdentifier.nativeField document = some (.objectId known) ∧
        known ≠ identifier) : IsNew identifier documents := by
  intro document member
  obtain ⟨known, identified, different⟩ := other document member
  constructor
  · rw [ObjectIdentifier.get?_id_canonicalDocument identified]
    intro same
    have texts : known.hex = identifier.hex := Value.string.inj (Option.some.inj same)
    have read := ObjectId.ofHex?_hex known
    rw [texts, ObjectId.ofHex?_hex] at read
    exact different (Option.some.inj read).symm
  · rw [identified]
    exact beq_eq_false_iff_ne.mpr different

theorem equalsOperand_objectId_self (identifier : ObjectId) :
    equalsOperand (some (.objectId identifier)) (.objectId identifier) = true :=
  beq_self_eq_true identifier

/-- A new identifier is accepted. -/
theorem insert_of_isNew (identified : Document.get? ObjectIdentifier.nativeField native =
      some (.objectId identifier)) (new : IsNew identifier (store.documents table)) :
    store.insert table [native] = (.ok (), store.put table (store.documents table ++ [native])) := by
  have unknown : (store.documents table).any (Store.hasIdentifier (.objectId identifier)) = false := by
    refine List.any_eq_false.mpr fun document member known => ?_
    obtain ⟨value, holds, equal⟩ := (Option.any_eq_true _ _).mp known
    have same : value = .objectId identifier := by
      cases value with
      | objectId other => rw [eq_of_beq (show (other == identifier) = true from equal)]
      | _ => cases equal
    have finds := (new document member).2
    rw [holds, same, equalsOperand_objectId_self] at finds
    cases finds
  unfold Store.insert
  simp only
  rw [Store.checkNew, identified]
  simp only
  rw [unknown]
  rfl

/-- **The newest document of a collection is found by its identifier.** -/
theorem run_findById_last (visible : world.state.visible? scope = some store) (named : table ≠ "")
    {known : List Document} (newest : store.documents table = known ++ [native])
    (identified : Document.get? ObjectIdentifier.nativeField native = some (.objectId identifier))
    (new : IsNew identifier known) :
    ((Connection.mk engine scope validator).findById (Query.ofTable table) identifier.hex).run
        Server.driver world =
      (.finished (.ok (some (ObjectIdentifier.canonicalDocument native))), world) := by
  let lookup : Lookup := .byId identifier.hex
  have admitted (document : Document) : lookup.admits (Query.ofTable table) document =
      equalsOperand (Document.get? ObjectIdentifier.nativeField document) (.objectId identifier) := by
    show (true && (false || (Operator.equal.holds (Predicate.fieldOf idField document)
      (Predicate.meant idField (.string identifier.hex)) && true))) = _
    rw [meant_hex, Bool.true_and, Bool.false_or, Bool.and_true]
    rfl
  have clean : ∀ leaf ∈ Clause.leaves (lookup.query (Query.ofTable table)).clauses,
      leaf.isRaw = false ∧ leaf.isPlain = true ∧ leaf.readsIdentifiers = true := by
    intro leaf member
    obtain rfl : leaf = .equal idField (.string identifier.hex) := List.mem_singleton.mp member
    have readable : Predicate.isIdentifier (.string identifier.hex) = true := by
      rw [Predicate.isIdentifier, ObjectId.ofHex?_hex]
      rfl
    have plain : (!Text.startsWith "$" idField) = true := by decide
    refine ⟨rfl, plain, ?_⟩
    show (_ || (_ && true)) = true
    rw [readable, Bool.and_true, Bool.or_true]
  have others : known.filter (lookup.admits (Query.ofTable table)) = [] := by
    refine List.filter_eq_nil_iff.mpr fun document member => ?_
    rw [admitted, (new document member).2]
    exact Bool.false_ne_true
  have itself : lookup.admits (Query.ofTable table) native = true := by
    rw [admitted, identified, equalsOperand_objectId_self]
  have found : listed (lookup.query (Query.ofTable table)) (lookup.admits (Query.ofTable table))
      (store.documents table) = [native] := by
    have only : (store.documents table).filter (lookup.admits (Query.ofTable table)) = [native] := by
      rw [newest, List.filter_append, others, List.filter_cons_of_pos itself]
      rfl
    unfold listed
    simp only
    rw [only]
    rfl
  have rows : (lookup.rows ⟨engine, scope, validator⟩ (Query.ofTable table)).run Server.driver world =
      _ := run_rows_unshaped visible (requireTable_ofTable named) rfl rfl clean
  rw [found] at rows
  obtain ⟨result, last, finds, whole⟩ := Program.run_bind_ok.mp rows
  cases result <;> cases whole
  exact finds

/-- **An insertion that round-trips**: a row with a new identifier in front of the defined fields of the
document, found by that identifier, and one more document in the collection of the table. -/
structure RoundTrip (scope : Scope) (validator : Validator) (table : String) (document : Document)
    (store : Store) (world later : World Server) (row : Document) (identifier : ObjectId) : Prop where
  inserts : ((Connection.mk engine scope validator).insertOne (Query.ofTable table) document).run
    Server.driver world = (.finished (.ok row), later)
  shows : Document.get? idField row = some (.string identifier.hex)
  unused : ∀ earlier ∈ store.documents table,
    Document.get? idField (ObjectIdentifier.canonicalDocument earlier) ≠ some (.string identifier.hex)
  keeps : Document.erase idField row = Document.withoutUndefined (Document.withoutId document)
  finds : ((Connection.mk engine scope validator).findById (Query.ofTable table) identifier.hex).run
    Server.driver later = (.finished (.ok (some row)), later)
  adds : ∃ left native, later.state.visible? scope = some left ∧
    ∀ name, left.documents name =
      if name = table then store.documents table ++ [native] else store.documents name

/-- The fields of a document that stand behind its identifier. -/
theorem withoutUndefined_withoutId (document : Document) :
    Document.withoutUndefined (Document.withoutId document) =
      Document.erase idField (Document.withoutUndefined document) := List.filter_comm ..

/-- An insertion that gives a row gives the one of the stored document. -/
theorem eq_of_run_insertOne (visible : world.state.visible? scope = some store) (named : table ≠ "")
    (distinct : (Document.keys document).Nodup) (anonymous : Document.hasId document = false)
    {later : World Server} {row : Document}
    (inserts : ((Connection.mk engine scope validator).insertOne (Query.ofTable table) document).run
      Server.driver world = (.finished (.ok row), later)) :
    row = ObjectIdentifier.canonicalDocument (stored world document) := by
  obtain ⟨last, answers, _⟩ := @exists_run_insertOne scope validator table document store world
    visible named anonymous (Document.hasId_filter distinct anonymous _)
  have same := Outcome.finished.inj (congrArg Prod.fst (inserts.symm.trans answers))
  cases accepted : (store.insert table [stored world document]).1 with
  | error error =>
    rw [accepted] at same
    cases same
  | ok done =>
    rw [accepted] at same
    exact Except.ok.inj same

/-- **A document without a defined field `_id` is found by its new identifier.** -/
theorem exists_roundTrip (visible : world.state.visible? scope = some store) (named : table ≠ "")
    (distinct : (Document.keys document).Nodup) (anonymous : Document.hasId document = false)
    (new : IsNew (ObjectId.ofDraw world.identifiers.next.1) (store.documents table))
    (absent : ObjectIdentifier.nativeField ∉ Document.keys (Document.withoutUndefined document)) :
    ∃ later, RoundTrip scope validator table document store world later
      (ObjectIdentifier.canonicalDocument (stored world document))
      (ObjectId.ofDraw world.identifiers.next.1) := by
  obtain ⟨later, inserts, sees⟩ := @exists_run_insertOne scope validator table document store world
    visible named anonymous (Document.hasId_filter distinct anonymous _)
  have identified : Document.get? ObjectIdentifier.nativeField (stored world document) =
      some (.objectId (ObjectId.ofDraw world.identifiers.next.1)) := get?_native_identified absent
  have row : ObjectIdentifier.canonicalDocument (stored world document) =
      (idField, .string (ObjectId.ofDraw world.identifiers.next.1).hex) ::
        Document.erase idField (Document.withoutUndefined document) :=
    canonicalDocument_identified (Document.nodup_keys_filter distinct _) absent
  have added : store.insert table [stored world document] =
      (.ok (), store.put table (store.documents table ++ [stored world document])) :=
    insert_of_isNew identified new
  rw [added] at inserts sees
  have newest : (store.put table (store.documents table ++ [stored world document])).documents table =
      store.documents table ++ [stored world document] := by
    rw [documents_put, if_pos rfl]
  exact ⟨later, {
    inserts := inserts
    shows := ObjectIdentifier.get?_id_canonicalDocument identified
    unused := fun earlier member => (new earlier member).1
    keeps := by
      rw [row, withoutUndefined_withoutId]
      show Document.erase idField (Document.erase idField _) = _
      exact Document.erase_of_not_mem_keys (Document.not_mem_keys_erase idField _)
    finds := run_findById_last sees named newest identified new
    adds := ⟨_, stored world document, sees, fun name => documents_put table name _ store⟩ }⟩

/-- **Insertions round-trip** exactly if the document has no defined field `_id`: no row has one. -/
theorem roundTrip_iff (visible : world.state.visible? scope = some store) (named : table ≠ "")
    (distinct : (Document.keys document).Nodup) (anonymous : Document.hasId document = false)
    (new : IsNew (ObjectId.ofDraw world.identifiers.next.1) (store.documents table)) :
    (∃ later row identifier,
      RoundTrip scope validator table document store world later row identifier) ↔
      Document.get? ObjectIdentifier.nativeField (Document.withoutUndefined document) = none := by
  constructor
  · rintro ⟨later, row, identifier, trip⟩
    have shown := eq_of_run_insertOne visible named distinct anonymous trip.inserts
    calc Document.get? ObjectIdentifier.nativeField (Document.withoutUndefined document)
        = Document.get? ObjectIdentifier.nativeField
            (Document.withoutUndefined (Document.withoutId document)) := by
          rw [withoutUndefined_withoutId, Document.get?_erase_of_ne (by decide)]
      _ = Document.get? ObjectIdentifier.nativeField row := by
          rw [← trip.keeps, Document.get?_erase_of_ne (by decide)]
      _ = none := by
          rw [shown, ObjectIdentifier.get?_native_canonicalDocument]
  · intro free
    have absent : ObjectIdentifier.nativeField ∉ Document.keys (Document.withoutUndefined document) := by
      intro member
      obtain ⟨value, found⟩ := Document.exists_get?_of_mem_keys member
      rw [free] at found
      cases found
    obtain ⟨later, trip⟩ := exists_roundTrip visible named distinct anonymous new absent
    exact ⟨later, _, _, trip⟩

end Runs

/-- A person without a field `_id` is found again. -/
theorem roundTrip_iff_cy :
    ∃ later row identifier,
      RoundTrip .connection .raising "people"
        [("name", .string "Cy"), ("id", .null), ("nick", .undefined)] people
        ⟨⟨5, 0⟩, ⟨people, none, 0⟩⟩ later row identifier := by
  refine (@roundTrip_iff .connection .raising "people"
    [("name", .string "Cy"), ("id", .null), ("nick", .undefined)] people ⟨⟨5, 0⟩, ⟨people, none, 0⟩⟩
    rfl (by decide) (by decide) rfl ?_).mpr rfl
  refine isNew_of_ne (List.forall_mem_cons.mpr ⟨⟨⟨1⟩, rfl, by decide⟩, ?_⟩)
  exact List.forall_mem_cons.mpr ⟨⟨⟨2⟩, rfl, by decide⟩, nofun⟩

/-- A person with a field `_id` is shown by it, and found by nothing. -/
theorem findById_own_identifier :
    ((Connection.mk engine .connection .raising).insertOne (Query.ofTable "people")
        [("_id", .int32 7), ("name", .string "Ann")]).run Server.driver ⟨⟨5, 0⟩, ⟨[], none, 0⟩⟩ =
      (.finished (.ok [("id", .string "7"), ("name", .string "Ann")]),
        ⟨⟨5, 1⟩, ⟨[("people", [[("_id", .int32 7), ("name", .string "Ann")]])], none, 0⟩⟩) ∧
    ((Connection.mk engine .connection .raising).findById (Query.ofTable "people") "7").run
        Server.driver
        ⟨⟨5, 1⟩, ⟨[("people", [[("_id", .int32 7), ("name", .string "Ann")]])], none, 0⟩⟩ =
      (.finished (.ok none),
        ⟨⟨5, 1⟩, ⟨[("people", [[("_id", .int32 7), ("name", .string "Ann")]])], none, 0⟩⟩) := by
  constructor
  · rfl
  · rfl

end Polystore
