/-
**Collections of documents in memory.**

A `Store` is a list of named collections; the documents of a collection stand in the order in which
they were inserted. Filters are evaluated before anything is changed, so a failing one changes nothing.
An insertion creates its collection first, and refuses the whole batch for one document without `_id`
or with the `_id` of another one.
-/

import Polystore.Memory.Find
import Polystore.Native.Engine

namespace Polystore.Memory

/-- Collections by name. -/
abbrev Store := List (String × List Document)

namespace Store

/-- The documents of a collection. -/
def get? (name : String) : Store → Option (List Document)
  | [] => none
  | (other, documents) :: rest => if other = name then some documents else get? name rest

/-- Replaces the documents of a collection, or adds it. -/
def put (name : String) (documents : List Document) : Store → Store
  | [] => [(name, documents)]
  | (other, old) :: rest =>
    if other = name then (other, documents) :: rest else (other, old) :: put name documents rest

/-- Removes a collection. -/
def erase (name : String) (store : Store) : Store := store.filter (·.1 ≠ name)

/-- The documents of a collection; a collection that does not exist has none. -/
def documents (name : String) (store : Store) : List Document := (store.get? name).getD []

/-- The names of all collections, in order. -/
def names (store : Store) : List String := (store.map Prod.fst).mergeSort fun left right => left ≤ right

/-- Adds a collection without documents unless it exists. -/
def create (name : String) (store : Store) : Store := store.put name (store.documents name)

/-- Whether a document has the given identifier. -/
def hasIdentifier (identifier : Value) (document : Document) : Bool :=
  (Document.get? ObjectIdentifier.nativeField document).any (·.equals identifier)

/-- Checks that new documents have identifiers that differ from all others. -/
def checkNew (name : String) (known : List Document) : List Document → Except DatabaseError Unit
  | [] => .ok ()
  | document :: rest =>
    match Document.get? ObjectIdentifier.nativeField document with
    | none =>
      .error (.invalidDocument ("document without '" ++ ObjectIdentifier.nativeField ++ "'"))
    | some identifier =>
      if known.any (hasIdentifier identifier) then
        .error (.backend
          ("duplicate key " ++ identifier.display ++ " in collection '" ++ name ++ "'"))
      else checkNew name (known ++ [document]) rest

/-- Adds documents at the end of a collection. -/
def insert (name : String) (added : List Document) (store : Store) : Except DatabaseError Unit × Store :=
  let present := store.documents name
  match checkNew name present added with
  | .ok _ => (.ok (), store.put name (present ++ added))
  | .error error => (.error error, store.create name)

/-- Changes the documents that pass a filter, and removes those changed to nothing. -/
def change (filter : Document) (new? : Document → Option Document) :
    List Document → Except DatabaseError (List Document × Nat)
  | [] => .ok ([], 0)
  | document :: rest => do
    let accepted ← passes document filter
    let (others, count) ← change filter new? rest
    return if accepted then ((new? document).toList ++ others, count + 1)
      else (document :: others, count)

/-- Changes the documents of a collection that pass a filter, and tells how many there were. -/
def changeIn (name : String) (filter : Document) (new? : Document → Option Document) (store : Store) :
    Except DatabaseError Nat × Store :=
  match store.get? name with
  | none => (.ok 0, store)
  | some documents =>
    match change filter new? documents with
    | .ok (changed, count) => (.ok count, store.put name changed)
    | .error error => (.error error, store)

/-- Sets fields of the documents that pass a filter. -/
def update (name : String) (filter set : Document) (store : Store) : Except DatabaseError Nat × Store :=
  store.changeIn name filter fun document => some (Document.extend document set)

/-- Removes the documents that pass a filter. -/
def delete (name : String) (filter : Document) (store : Store) : Except DatabaseError Nat × Store :=
  store.changeIn name filter fun _ => none

/-- Removes a collection, which has to exist. -/
def drop (name : String) (store : Store) : Except DatabaseError Unit × Store :=
  match store.get? name with
  | some _ => (.ok (), store.erase name)
  | none => (.error (.backend ("collection '" ++ name ++ "' not found")), store)

/-- The cause of calls on a transaction that was committed or rolled back. -/
def finishedTransaction : DatabaseError := .backend "transaction is no longer open"

/-- Answers a call of a document driver out of the collections. They know no transactions. -/
def answer : (call : Native.Call) → Store → Except DatabaseError (Native.interface.Reply call) × Store
  | .find name read, store => (found read (store.documents name), store)
  | .count name filter, store => ((matching filter (store.documents name)).map List.length, store)
  | .insert name documents, store => store.insert name documents
  | .update name filter set, store => store.update name filter set
  | .delete name filter, store => store.delete name filter
  | .createCollection name, store => (.ok (), store.create name)
  | .dropCollection name, store => store.drop name
  | .listCollections, store => (.ok store.names, store)
  | .begin, store => (.error finishedTransaction, store)
  | .commit, store => (.error finishedTransaction, store)
  | .rollback, store => (.error finishedTransaction, store)

@[simp] theorem get?_put_self (name : String) (documents : List Document) (store : Store) :
    (store.put name documents).get? name = some documents := by
  induction store with
  | nil => simp [put, get?]
  | cons entry rest hypothesis =>
    obtain ⟨other, old⟩ := entry
    by_cases equal : other = name <;> simp [put, get?, equal, hypothesis]

/-- Writing a collection leaves every other one alone. -/
theorem get?_put_of_ne {name other : String} (different : other ≠ name) (documents : List Document)
    (store : Store) : (store.put name documents).get? other = store.get? other := by
  induction store with
  | nil => simp [put, get?, Ne.symm different]
  | cons entry rest hypothesis =>
    obtain ⟨key, old⟩ := entry
    by_cases equal : key = name
    · subst equal
      simp [put, get?, Ne.symm different]
    · by_cases same : key = other
      · subst same
        simp [put, get?, equal]
      · simp [put, get?, equal, same, hypothesis]

end Store

end Polystore.Memory
