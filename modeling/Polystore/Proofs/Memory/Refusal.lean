/-
**Insertions that are refused.**

A batch is refused for its first document with a fault: one without an identifier, or with the
identifier of a stored document or of one in front of it. The collection has been made by then.

* `checkNew_eq_ok_iff`, `checkNew_eq_error_iff`: which batches are accepted, and why others are refused;
* `insert_exact`: so an accepted batch is appended as it is, and a refused one leaves all documents
  alone, and the collections exactly if its own one was there;
* `insert_refused_creates`: a refused batch that leaves a collection behind.
-/

import Polystore.Proofs.Memory.Identifiers

namespace Polystore.Memory.Store

/-- **What is wrong with a document** behind known ones: it has no identifier, or that of one of them. -/
inductive Fault (name : String) (known : List Document) (document : Document) : DatabaseError → Prop
  | unidentified (absent : Document.get? ObjectIdentifier.nativeField document = none) :
      Fault name known document
        (.invalidDocument ("document without '" ++ ObjectIdentifier.nativeField ++ "'"))
  | repeated {other : Document} {identifier own : Value}
      (found : Document.get? ObjectIdentifier.nativeField document = some identifier)
      (member : other ∈ known)
      (stored : Document.get? ObjectIdentifier.nativeField other = some own)
      (equal : own.equals identifier = true) :
      Fault name known document
        (.backend ("duplicate key " ++ identifier.display ++ " in collection '" ++ name ++ "'"))

/-- Whether no document of a batch has a fault. -/
def IsClean (name : String) (known added : List Document) : Prop :=
  ∀ before document after, added = before ++ document :: after →
    ∀ error, ¬ Fault name (known ++ before) document error

/-- Whether a batch has a fault, and that of its first document with one. -/
def FirstFault (name : String) (known added : List Document) (error : DatabaseError) : Prop :=
  ∃ before document after, added = before ++ document :: after ∧ IsClean name known before ∧
    Fault name (known ++ before) document error

section Check

variable {name : String} {known added rest : List Document} {document : Document}
  {error : DatabaseError}

theorem any_hasIdentifier_iff {identifier : Value} :
    known.any (hasIdentifier identifier) = true ↔
      ∃ other ∈ known, ∃ own, Document.get? ObjectIdentifier.nativeField other = some own ∧
        own.equals identifier = true := by
  rw [List.any_eq_true]
  exact exists_congr fun other => and_congr_right fun _ => Option.any_eq_true ..

/-- A document with a fault is refused for it, -/
theorem checkNew_cons_of_fault (fault : Fault name known document error) :
    checkNew name known (document :: rest) = .error error := by
  cases fault with
  | unidentified absent => rw [checkNew, absent]
  | repeated found member stored equal =>
    rw [checkNew, found]
    exact if_pos (any_hasIdentifier_iff.mpr ⟨_, member, _, stored, equal⟩)

/-- and one without a fault is known from there on. -/
theorem checkNew_cons_of_clean (clean : ∀ error, ¬ Fault name known document error) :
    checkNew name known (document :: rest) = checkNew name (known ++ [document]) rest := by
  cases found : Document.get? ObjectIdentifier.nativeField document with
  | none => exact absurd (.unidentified found) (clean _)
  | some identifier =>
    rw [checkNew, found]
    refine if_neg fun taken => ?_
    obtain ⟨other, member, own, stored, equal⟩ := any_hasIdentifier_iff.mp taken
    exact clean _ (.repeated found member stored equal)

theorem isClean_nil : IsClean name known [] := by
  intro before document after split
  cases before <;> cases split

theorem isClean_cons :
    IsClean name known (document :: rest) ↔
      (∀ error, ¬ Fault name known document error) ∧ IsClean name (known ++ [document]) rest := by
  constructor
  · intro clean
    refine ⟨fun error fault => clean [] document rest rfl error ?_, fun before next after split => ?_⟩
    · rwa [List.append_nil]
    · have later := clean (document :: before) next after (by rw [split, List.cons_append])
      rwa [List.append_cons] at later
  · rintro ⟨clean, others⟩ before next after split
    cases before with
    | nil =>
      obtain ⟨rfl, rfl⟩ := List.cons.inj split
      rwa [List.append_nil]
    | cons first before =>
      obtain ⟨rfl, behind⟩ := List.cons.inj split
      rw [List.append_cons]
      exact others before next after behind

theorem firstFault_cons_of_clean (clean : ∀ error, ¬ Fault name known document error) :
    FirstFault name known (document :: rest) error ↔
      FirstFault name (known ++ [document]) rest error := by
  constructor
  · rintro ⟨before, faulty, after, split, cleanly, fault⟩
    cases before with
    | nil =>
      obtain ⟨rfl, rfl⟩ := List.cons.inj split
      rw [List.append_nil] at fault
      exact absurd fault (clean error)
    | cons first before =>
      obtain ⟨rfl, behind⟩ := List.cons.inj split
      rw [List.append_cons] at fault
      exact ⟨before, faulty, after, behind, (isClean_cons.mp cleanly).2, fault⟩
  · rintro ⟨before, faulty, after, rfl, cleanly, fault⟩
    refine ⟨document :: before, faulty, after, rfl, isClean_cons.mpr ⟨clean, cleanly⟩, ?_⟩
    rwa [List.append_cons]

/-- **Which batches are accepted**: those without a fault. -/
theorem checkNew_eq_ok_iff : checkNew name known added = .ok () ↔ IsClean name known added := by
  induction added generalizing known with
  | nil => exact iff_of_true rfl isClean_nil
  | cons document rest hypothesis =>
    rw [isClean_cons]
    by_cases clean : ∀ error, ¬ Fault name known document error
    · rw [checkNew_cons_of_clean clean, hypothesis, and_iff_right clean]
    · obtain ⟨error, fault⟩ := not_forall_not.mp clean
      rw [checkNew_cons_of_fault fault]
      exact iff_of_false nofun fun both => clean both.1

/-- **Why a batch is refused**: for the fault of its first document with one. -/
theorem checkNew_eq_error_iff :
    checkNew name known added = .error error ↔ FirstFault name known added error := by
  induction added generalizing known with
  | nil =>
    refine iff_of_false nofun ?_
    rintro ⟨before, document, after, split, -⟩
    cases before <;> cases split
  | cons document rest hypothesis =>
    by_cases clean : ∀ error, ¬ Fault name known document error
    · rw [checkNew_cons_of_clean clean, hypothesis, firstFault_cons_of_clean clean]
    · obtain ⟨other, fault⟩ := not_forall_not.mp clean
      rw [checkNew_cons_of_fault fault]
      constructor
      · intro same
        obtain rfl := Except.error.inj same
        exact ⟨[], document, rest, rfl, isClean_nil, by rwa [List.append_nil]⟩
      · rintro ⟨before, faulty, after, split, cleanly, found⟩
        cases before with
        | nil =>
          obtain ⟨rfl, rfl⟩ := List.cons.inj split
          rw [List.append_nil] at found
          have refused : checkNew name known (document :: rest) = .error error :=
            checkNew_cons_of_fault found
          rw [← refused, checkNew_cons_of_fault fault]
        | cons first before =>
          obtain ⟨rfl, -⟩ := List.cons.inj split
          exact absurd (isClean_cons.mp cleanly).1 clean

end Check

section Insertions

variable {name other : String} {added : List Document} {store : Store} {error : DatabaseError}

/-- A collection that is there stays as it is when it is to be made. -/
theorem put_documents (present : (store.get? name).isSome = true) :
    store.put name (store.documents name) = store := by
  unfold documents
  induction store with
  | nil => cases present
  | cons entry rest hypothesis =>
    obtain ⟨other, stored⟩ := entry
    rw [get?] at present ⊢
    by_cases same : other = name
    · rw [put, if_pos same, if_pos same, Option.getD_some]
    · rw [if_neg same] at present
      rw [put, if_neg same, if_neg same, hypothesis present]

/-- Making a collection changes nothing exactly if it is there. -/
theorem create_eq_self_iff : store.create name = store ↔ (store.get? name).isSome = true := by
  refine ⟨fun same => ?_, put_documents⟩
  rw [← same, create, get?_put_self]
  rfl

theorem insert_of_ok (accepted : checkNew name (store.documents name) added = .ok ()) :
    store.insert name added = (.ok (), store.put name (store.documents name ++ added)) := by
  rw [insert, accepted]

theorem insert_of_error (refused : checkNew name (store.documents name) added = .error error) :
    store.insert name added = (.error error, store.create name) := by
  rw [insert, refused]

theorem insert_fst : (store.insert name added).1 = checkNew name (store.documents name) added := by
  cases checked : checkNew name (store.documents name) added with
  | ok _ => rw [insert_of_ok checked]
  | error error => rw [insert_of_error checked]

end Insertions

/-- **What an insertion does.** It succeeds if no document of the batch has a fault, and then the batch is
appended to its collection as it is. Otherwise it fails for the first fault and every collection keeps
its documents in their order; but the collection of the batch is there afterwards, so that nothing has
changed exactly if it was there before. -/
theorem insert_exact (name : String) (added : List Document) (store : Store) :
    ((store.insert name added).1 = .ok () ↔ IsClean name (store.documents name) added) ∧
    (∀ error, (store.insert name added).1 = .error error ↔
      FirstFault name (store.documents name) added error) ∧
    (∀ other, (store.insert name added).2.get? other =
      if other = name then
        some (if (store.insert name added).1.isOk then store.documents name ++ added
          else store.documents name)
      else store.get? other) ∧
    ∀ error, (store.insert name added).1 = .error error →
      ((store.insert name added).2 = store ↔ (store.get? name).isSome = true) := by
  rw [insert_fst]
  refine ⟨checkNew_eq_ok_iff, fun error => checkNew_eq_error_iff, fun other => ?_, fun error refused => ?_⟩
  · cases checked : checkNew name (store.documents name) added with
    | ok _ =>
      rw [insert_of_ok checked]
      exact get?_put name other _ store
    | error error =>
      rw [insert_of_error checked]
      exact get?_put name other _ store
  · rw [insert_of_error refused]
    exact create_eq_self_iff

/-- A store with a collection of two people. -/
def twoPeople : Store :=
  [("people", [[("_id", .int64 1), ("name", .string "Ann")], [("_id", .int64 2), ("name", .string "Bob")]])]

/-- A batch whose second document has the identifier of a stored one. -/
theorem insert_exact_bob :
    (twoPeople.insert "people" [[("_id", .int64 9)], [("_id", .int64 2)]]).1 =
        .error (.backend "duplicate key 2 in collection 'people'") ∧
      (twoPeople.insert "people" [[("_id", .int64 9)], [("_id", .int64 2)]]).2 = twoPeople := by
  obtain ⟨-, refused, -, kept⟩ :=
    insert_exact "people" [[("_id", .int64 9)], [("_id", .int64 2)]] twoPeople
  have fault : (twoPeople.insert "people" [[("_id", .int64 9)], [("_id", .int64 2)]]).1 =
      .error (.backend "duplicate key 2 in collection 'people'") := rfl
  exact ⟨fault, (kept _ fault).mpr rfl⟩

/-- A batch that is refused for its only document leaves a collection behind. -/
theorem insert_refused_creates :
    Store.insert "people" [[("name", .string "Ann")]] [] =
        (.error (.invalidDocument "document without '_id'"), [("people", [])]) ∧
      Store.names [] = [] ∧ Store.names [("people", [])] = ["people"] :=
  ⟨rfl, by simp [names], by simp [names]⟩

end Polystore.Memory.Store
