/-
**Updated documents and the filters that look for them.**

An update writes each of its fields under its name as a key, while a filter takes the name of a field as a
path. Both mean the same place where a name has no dot.

* `Document.atPath?_extend`: where a path leads in an updated document;
* `isFoundBy_iff`: what the filter of an equality accepts;
* `updated_rows`: what an update leaves behind, and which of its values are found there.
-/

import Polystore.Proofs.Memory.Positions

namespace Polystore

open Memory Native

/-! ### Updated documents -/

namespace Document

/-- **Where a path is followed in an updated document**: in the new values, if its first key is one of
theirs, else in what the document was. -/
def followed (path : String) (values old : Document) : Document :=
  if ∃ key ∈ (Text.segmentsOf '.' path).head?, key ∈ keys values then values else old

/-- Whether the filter of an equality accepts a document. -/
def IsFoundBy (field : String) (value : Value) (document : Document) : Prop :=
  ∃ filter, Native.filter [(.and, .equal field value)] = .ok filter ∧ passes document filter = .ok true

/-- Values that an update sets as they are, under names that a filter can ask for. -/
structure IsSettable (values : Document) : Prop where
  filled : values ≠ []
  distinct : hasDistinctKeys values = true
  free : isNaNFree values = true
  defined : ∀ field ∈ values, field.2.isUndefined = false
  unidentified : idField ∉ keys values
  plain : ∀ key ∈ keys values, Text.startsWith "$" key = false

section Updates

variable {path field : String} {values document : Document} {value : Value}

/-- A path leads where its first key does. -/
theorem atPath?_extend (distinct : (keys values).Nodup) (old : Document) :
    atPath? path (extend old values) = atPath? path (followed path values old) := by
  refine atPath?_congr fun key first => ?_
  rw [get?_extend distinct, followed]
  by_cases written : key ∈ keys values
  · obtain ⟨value, found⟩ := Option.isSome_iff_exists.mp (contains_iff.mpr written)
    rw [if_pos ⟨key, first, written⟩, found, Option.some_or]
  · have absent : get? key values = none := Option.not_isSome_iff_eq_none.mp (contains_iff.not.mpr written)
    rw [if_neg, absent, Option.none_or]
    rintro ⟨other, same, among⟩
    rw [Option.mem_unique same first] at among
    exact written among

/-- **What the filter of an equality accepts.** -/
theorem isFoundBy_iff (other : field ≠ idField) (plain : Text.startsWith "$" field = false) :
    document.IsFoundBy field value ↔ equalsOperand (atPath? field document) value = true := by
  have clean : ∀ leaf ∈ Clause.leaves [(.and, .equal field value)],
      leaf.isRaw = false ∧ leaf.isPlain = true ∧ leaf.readsIdentifiers = true := by
    intro leaf member
    obtain rfl := List.mem_singleton.mp member
    refine ⟨rfl, ?_, ?_⟩
    · show (!Text.startsWith "$" field) = true
      rw [plain]
      rfl
    · show (some field != some idField || _) = true
      simp [other]
  obtain ⟨filter, made, passed⟩ := passes_filter_eq_hold _ document clean
  have meaning : Clause.hold (Predicate.meets document) [(.and, .equal field value)] =
      equalsOperand (atPath? field document) value := by
    rw [Clause.hold_eq_cut]
    simp only [Clause.cut_singleton, List.isEmpty_cons, Bool.false_or, List.any_cons, List.any_nil,
      List.all_cons, List.all_nil, Bool.and_true, Bool.or_false]
    show equalsOperand (Predicate.fieldOf field document) (Predicate.meant field value) = _
    rw [Predicate.fieldOf, if_neg other, Predicate.meant_of_ne other]
  rw [meaning] at passed
  constructor
  · rintro ⟨own, again, accepted⟩
    obtain rfl := Except.ok.inj (made.symm.trans again)
    exact Except.ok.inj (passed.symm.trans accepted)
  · intro equal
    exact ⟨filter, made, equal ▸ passed⟩

/-- A value that is set under a name without a dot is found by it. -/
theorem IsSettable.isFoundBy (settable : values.IsSettable) (member : (field, value) ∈ values)
    (undotted : Text.hasChar '.' field = false) (old : Document) :
    (extend old values).IsFoundBy field value := by
  obtain ⟨unique, each⟩ := hasDistinctKeys_iff.mp settable.distinct
  have named : field ∈ keys values := List.mem_map_of_mem member
  have written : get? field (extend old values) = some value := by
    rw [get?_extend unique, get?_of_mem unique member, Option.some_or]
  have other : field ≠ idField := fun same => settable.unidentified (same ▸ named)
  rw [isFoundBy_iff other (settable.plain field named), atPath?_eq_get? undotted, written]
  exact equalsOperand_self (each _ member) (isNaNFree_of_mem settable.free member)

/-- An update sends such values as they are. -/
theorem IsSettable.sent (settable : values.IsSettable) : withoutUndefined (withoutId values) = values := by
  rw [withoutId, erase_of_not_mem_keys settable.unidentified, withoutUndefined]
  exact List.filter_eq_self.mpr fun field member => by rw [settable.defined field member]; rfl

end Updates

end Document

/-! ### Updates -/

section Updates

variable {scope : Scope} {validator : Validator} {query : Query} {store : Store}
  {world later : World Server} {values : Document} {count : Nat}

/-- What an update that succeeds has gone through. -/
theorem exists_of_update
    (updated : ((connected scope validator).update query values).run Server.driver world =
      (.finished (.ok count), later)) :
    ∃ table outcome, query.requireTable = .ok table ∧ query.joins = [] ∧
      ((connected scope validator).execute query (.update values)).run Server.driver world =
        (.finished (.ok outcome), later) ∧ outcome.affected = count := by
  rw [Connection.update] at updated
  obtain ⟨table, middle, bound, ran⟩ := Program.run_bind_ok.mp updated
  obtain ⟨named, rfl⟩ := Program.run_ofExcept_ok.mp bound
  obtain ⟨outcome, last, executed, ended⟩ := Program.run_bind_ok.mp ran
  cases ended
  refine ⟨table, outcome, named, ?_, executed, rfl⟩
  by_contra joins
  have fails : (connected scope validator).execute query (.update values) = .fail _ :=
    executeQuery_update_of_joined scope named joins values
  rw [fails] at executed
  cases executed

/-- An update under a filter that fails on a document fails. -/
theorem exists_run_update_of_failure (validator : Validator) {table : String} {filter : Document}
    {error : DatabaseError} (visible : world.state.visible? scope = some store)
    (bound : query.requireTable = .ok table)
    (unjoined : query.joins = []) (made : Native.filter query.clauses = .ok filter)
    (filled : (Document.withoutUndefined (Document.withoutId values)).isEmpty = false)
    (failure : FirstFailure filter (store.documents table) error) :
    ∃ last, ((connected scope validator).execute query (.update values)).run Server.driver world =
      (.finished (.error error), last) := by
  have refused : store.changeIn table filter (fun document => some (Document.extend document
      (Document.withoutUndefined (Document.withoutId values)))) = (.error error, store) :=
    changeIn_of_failure failure
  obtain ⟨last, asked, -⟩ := @exists_run_ask scope table store world
    (.update table filter (Document.withoutUndefined (Document.withoutId values))) (.error error)
    (store.documents table) visible rfl (congrArg Prod.fst refused) fun name => by
      show (store.changeIn table filter _).2.documents name = _
      rw [refused]
      split
      · rename_i same
        rw [same]
      · rfl
  refine ⟨last, ?_⟩
  show (executeQuery scope { query with mutation := .update values }).run _ _ = _
  rw [executeQuery_update scope bound unjoined, made]
  simp only [filled]
  exact Program.run_bind_of_error asked _

/-- The filter of an update that succeeds decides every document as its clauses do. -/
theorem exists_decides_of_update {table : String} {outcome : WriteOutcome}
    (visible : world.state.visible? scope = some store) (bound : query.requireTable = .ok table)
    (unjoined : query.joins = [])
    (filled : (Document.withoutUndefined (Document.withoutId values)).isEmpty = false)
    (executed : ((connected scope validator).execute query (.update values)).run Server.driver world =
      (.finished (.ok outcome), later)) :
    ∃ filter, Native.filter query.clauses = .ok filter ∧
      ∀ document ∈ store.documents table, passes document filter =
        .ok (Clause.hold (Predicate.meets document) query.clauses) := by
  cases made : Native.filter query.clauses with
  | error error =>
    have fails : (connected scope validator).execute query (.update values) = .fail error := by
      show executeQuery scope { query with mutation := .update values } = _
      rw [executeQuery_update scope bound unjoined, made]
      rfl
    rw [fails] at executed
    cases executed
  | ok filter =>
    have decides : Decides filter (store.documents table) := by
      refine (decides_or_firstFailure filter _).resolve_right fun ⟨error, failure⟩ => ?_
      obtain ⟨last, failed⟩ := exists_run_update_of_failure validator visible bound unjoined made
        filled failure
      rw [failed] at executed
      cases executed
    refine ⟨filter, rfl, fun document member => ?_⟩
    obtain ⟨accepted, passed⟩ := decides document member
    rw [passed, (settles_filter document made).eq_of_ok passed]

/-- **What an update leaves behind.** It sets its fields on the documents that its clauses accept, tells
how many there were and leaves the others alone. A value is found by the name under which it was set
exactly if the name, followed as a path, leads to it in the new values or, if its first key is none of
theirs, has led to it before. So it is found under every name without a dot. -/
theorem updated_rows (visible : world.state.visible? scope = some store) (settable : values.IsSettable)
    (updated : ((connected scope validator).update query values).run Server.driver world =
      (.finished (.ok count), later)) :
    ∃ table, query.requireTable = .ok table ∧
      count = ((store.documents table).filter fun document =>
        Clause.hold (Predicate.meets document) query.clauses).length ∧
      Leaves scope table store world later ((store.documents table).map fun document =>
        if Clause.hold (Predicate.meets document) query.clauses then document.extend values
        else document) ∧
      ∀ old : Document, ∀ field value, (field, value) ∈ values →
        ((old.extend values).IsFoundBy field value ↔
          equalsOperand (Document.atPath? field (Document.followed field values old)) value = true) ∧
        (Text.hasChar '.' field = false → (old.extend values).IsFoundBy field value) := by
  obtain ⟨table, outcome, bound, unjoined, executed, rfl⟩ := exists_of_update updated
  have filled : (Document.withoutUndefined (Document.withoutId values)).isEmpty = false := by
    rw [settable.sent]
    exact List.isEmpty_eq_false_iff.mpr settable.filled
  obtain ⟨filter, made, decided⟩ := exists_decides_of_update visible bound unjoined filled executed
  obtain ⟨last, ran, leaves⟩ := @exists_run_update scope validator query table store world _ filter values
    visible bound unjoined made decided filled
  rw [executed] at ran
  cases ran
  rw [settable.sent] at leaves
  refine ⟨table, bound, rfl, leaves, fun old field value member => ⟨?_, fun undotted => ?_⟩⟩
  · have named : field ∈ Document.keys values := List.mem_map_of_mem member
    have other : field ≠ idField := fun same => settable.unidentified (same ▸ named)
    rw [Document.isFoundBy_iff other (settable.plain field named),
      Document.atPath?_extend (Document.hasDistinctKeys_iff.mp settable.distinct).1]
  · exact settable.isFoundBy member undotted old

end Updates

/-- A new name, and an address whose city is also set by its path. -/
def moved : Document :=
  [("name", .string "Eve"), ("address", .document [("city", .string "Rome")]),
    ("address.city", .string "Rome")]

/-- One of two people is renamed and moved, and is found by every value. -/
theorem updated_rows_moved :
    ∃ later, ((connected .connection .raising).update annOrEve moved).run Server.driver
        ⟨⟨0, 0⟩, ⟨people, none, 0⟩⟩ = (.finished (.ok 1), later) ∧
      Leaves .connection "people" people ⟨⟨0, 0⟩, ⟨people, none, 0⟩⟩ later
        [("_id", .objectId ⟨1⟩) :: moved, [("_id", .objectId ⟨2⟩), ("name", .string "Bob")]] ∧
      ∀ field value, (field, value) ∈ moved →
        Document.IsFoundBy field value (("_id", .objectId ⟨1⟩) :: moved) := by
  have settable : moved.IsSettable :=
    ⟨by decide, by decide, by decide, by decide, by decide, by decide⟩
  have ran : ((connected .connection .raising).update annOrEve moved).run Server.driver
      ⟨⟨0, 0⟩, ⟨people, none, 0⟩⟩ = (.finished (.ok 1), _) := rfl
  obtain ⟨table, bound, -, leaves, finds⟩ :=
    @updated_rows .connection .raising annOrEve people _ _ _ _ rfl settable ran
  obtain rfl : table = "people" := (Except.ok.inj bound).symm
  refine ⟨_, ran, leaves, fun field value member => ?_⟩
  have found := finds [("_id", .objectId ⟨1⟩), ("name", .string "Ann")] field value member
  rcases List.mem_cons.mp member with same | member
  · cases same
    exact found.2 (by decide)
  · rcases List.mem_pair.mp member with same | same
    · cases same
      exact found.2 (by decide)
    · cases same
      exact found.1.mpr (by decide)

/-- A city that is set by its path alone is set on one document, and no document is found by it. -/
theorem updated_city_not_found :
    ∃ later, ((connected .connection .raising).update annOrEve [("address.city", .string "Rome")]).run
        Server.driver ⟨⟨0, 0⟩, ⟨people, none, 0⟩⟩ = (.finished (.ok 1), later) ∧
      ((connected .connection .raising).count
        { Query.ofTable "people" with clauses := [(.and, .equal "address.city" (.string "Rome"))] }).run
          Server.driver later = (.finished (.ok 0), later) :=
  ⟨_, rfl, rfl⟩

end Polystore
