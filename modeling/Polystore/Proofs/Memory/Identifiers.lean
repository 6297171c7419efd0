/-
**Whether stored documents keep identifiers, and unique ones.**

Only an insertion looks at the identifiers that are there. The other writes keep them unique by not
touching them, which an update does only if its fields have no `_id` (`KeepsIdentifiers`). No write takes
the `_id` of a document away.

* `unique_of_checkNew`, `sublist_of_change`: insertions, updates and deletions in one collection;
* `unique_answer`, `every_answer`, `isIdentified_answer`: the collections after one call;
* `holds_answer`: what every call keeps of collections, the shared state keeps, with the collections that
  a transaction has staged;
* `intact_answer`: so identifiers stay unique.
-/

import Mathlib.Data.List.Pairwise
import Polystore.Proofs.Memory.Serializable

namespace Polystore

open Native (Call)

namespace Memory

/-- **Whether no two documents have equal identifiers.** -/
def Unique (documents : List Document) : Prop :=
  documents.Pairwise fun first second => ∀ one other,
    Document.get? ObjectIdentifier.nativeField first = some one →
    Document.get? ObjectIdentifier.nativeField second = some other → one.equals other = false

/-- Whether the identifiers in every collection are unique. -/
def Store.IsUnique (store : Store) : Prop := ∀ name, Unique (store.documents name)

/-- Whether a call leaves the identifiers of stored documents alone. -/
def KeepsIdentifiers : Call → Prop
  | .update _ _ set => Document.get? ObjectIdentifier.nativeField set = none
  | _ => True

/-! ### Collections -/

section Collections

variable {name : String} {known added documents changed : List Document} {store : Store} {call : Call}

/-- Uniqueness is about the identifiers alone. -/
theorem unique_iff_map :
    Unique documents ↔
      (documents.map (Document.get? ObjectIdentifier.nativeField)).Pairwise fun first second =>
        ∀ one other, first = some one → second = some other → one.equals other = false := by
  rw [List.pairwise_map]
  rfl

theorem unique_nil : Unique [] := List.Pairwise.nil

/-- **An insertion that is accepted keeps identifiers unique.** -/
theorem unique_of_checkNew {checked : Unit} (unique : Unique known)
    (accepted : Store.checkNew name known added = .ok checked) : Unique (known ++ added) := by
  induction added generalizing known with
  | nil =>
    rw [List.append_nil]
    exact unique
  | cons document rest hypothesis =>
    rw [Store.checkNew] at accepted
    cases identified : Document.get? ObjectIdentifier.nativeField document with
    | none =>
      rw [identified] at accepted
      cases accepted
    | some identifier =>
      rw [identified] at accepted
      simp only at accepted
      split at accepted
      · cases accepted
      · rename_i fresh
        have longer : Unique (known ++ [document]) := by
          refine List.pairwise_append.mpr ⟨unique, List.pairwise_singleton _ _, ?_⟩
          intro earlier inside latest single one other first second
          obtain rfl := List.mem_singleton.mp single
          obtain rfl := Option.some.inj (identified.symm.trans second)
          refine Bool.eq_false_iff.mpr fun equal => fresh (List.any_eq_true.mpr ⟨earlier, inside, ?_⟩)
          rw [Store.hasIdentifier, first]
          exact equal
        have whole := hypothesis longer accepted
        rwa [List.append_assoc] at whole

/-- **A change that keeps identifiers where it keeps documents** leaves a part of them. -/
theorem sublist_of_change {filter : Document} {new? : Document → Option Document} {count : Nat}
    (keeps : ∀ old new, new? old = some new →
      Document.get? ObjectIdentifier.nativeField new = Document.get? ObjectIdentifier.nativeField old)
    (made : Store.change filter new? documents = .ok (changed, count)) :
    (changed.map (Document.get? ObjectIdentifier.nativeField)).Sublist
      (documents.map (Document.get? ObjectIdentifier.nativeField)) := by
  induction documents generalizing changed count with
  | nil =>
    obtain ⟨rfl, -⟩ := Prod.mk.inj (Except.ok.inj made)
    exact List.Sublist.refl _
  | cons document rest hypothesis =>
    obtain ⟨accepted, _, remaining⟩ := bind_eq_ok.mp made
    obtain ⟨⟨others, number⟩, more, whole⟩ := bind_eq_ok.mp remaining
    have behind := hypothesis more
    cases accepted with
    | false =>
      obtain ⟨rfl, -⟩ := Prod.mk.inj (Except.ok.inj whole)
      exact behind.cons_cons _
    | true =>
      obtain ⟨rfl, -⟩ := Prod.mk.inj (Except.ok.inj whole)
      cases replaced : new? document with
      | none => exact behind.cons _
      | some new =>
        rw [Option.toList_some, List.singleton_append, List.map_cons, List.map_cons,
          keeps document new replaced]
        exact behind.cons_cons _

theorem Store.get?_put (name other : String) (documents : List Document) (store : Store) :
    (store.put name documents).get? other = if other = name then some documents else store.get? other := by
  split
  · rename_i same
    rw [same, Store.get?_put_self]
  · rename_i different
    exact Store.get?_put_of_ne different documents store

theorem Store.documents_of_none (missing : store.get? name = none) : store.documents name = [] := by
  rw [Store.documents, missing]
  rfl

theorem Store.documents_of_some {stored : List Document} (found : store.get? name = some stored) :
    store.documents name = stored := by
  rw [Store.documents, found]
  rfl

theorem documents_put (name other : String) (documents : List Document) (store : Store) :
    (store.put name documents).documents other =
      if other = name then documents else store.documents other := by
  rw [Store.documents, Store.get?_put, apply_ite (Option.getD · [])]
  rfl

theorem isUnique_put (unique : store.IsUnique) (replaced : Unique documents) :
    (store.put name documents).IsUnique := by
  intro other
  rw [documents_put]
  split
  · exact replaced
  · exact unique other

/-- Removing a collection leaves every other one alone. -/
theorem get?_erase (name other : String) (store : Store) :
    (store.erase name).get? other = if other = name then none else store.get? other := by
  induction store with
  | nil =>
    rw [Store.get?, ite_self]
    rfl
  | cons entry rest hypothesis =>
    obtain ⟨key, documents⟩ := entry
    rw [Store.erase] at hypothesis ⊢
    by_cases removed : key = name
    · rw [List.filter_cons_of_neg (by simpa using removed), hypothesis, Store.get?]
      by_cases same : other = name
      · rw [if_pos same, if_pos same]
      · rw [if_neg same, if_neg same, if_neg fun equal => same (equal.symm.trans removed)]
    · rw [List.filter_cons_of_pos (by simpa using removed), Store.get?, hypothesis, Store.get?]
      by_cases found : key = other
      · rw [if_pos found, if_pos found, if_neg fun equal => removed (found.trans equal)]
      · rw [if_neg found, if_neg found]

theorem isUnique_erase (unique : store.IsUnique) : (store.erase name).IsUnique := by
  intro other
  rw [Store.documents, get?_erase]
  split
  · exact unique_nil
  · exact unique other

theorem isUnique_changeIn {filter : Document} {new? : Document → Option Document}
    (unique : store.IsUnique)
    (keeps : ∀ old new, new? old = some new →
      Document.get? ObjectIdentifier.nativeField new = Document.get? ObjectIdentifier.nativeField old) :
    (store.changeIn name filter new?).2.IsUnique := by
  unfold Store.changeIn
  cases found : store.get? name with
  | none => exact unique
  | some documents =>
    have before : Unique documents := by
      have stored := unique name
      unfold Store.documents at stored
      rw [found] at stored
      exact stored
    simp only
    cases made : Store.change filter new? documents with
    | error error => exact unique
    | ok result =>
      obtain ⟨changed, count⟩ := result
      exact isUnique_put unique
        (unique_iff_map.mpr ((unique_iff_map.mp before).sublist (sublist_of_change keeps made)))

/-- **Every call that leaves identifiers alone keeps them unique.** -/
theorem unique_answer (unique : store.IsUnique) (keeps : KeepsIdentifiers call) :
    (store.answer call).2.IsUnique := by
  cases call with
  | insert name documents =>
    show (store.insert name documents).2.IsUnique
    unfold Store.insert
    simp only
    cases checked : Store.checkNew name (store.documents name) documents with
    | error error => exact isUnique_put unique (unique name)
    | ok done => exact isUnique_put unique (unique_of_checkNew (unique name) checked)
  | update name filter set =>
    refine isUnique_changeIn unique fun old new replaced => ?_
    obtain rfl := Option.some.inj replaced
    exact Document.get?_extend_of_none keeps old
  | delete name filter => exact isUnique_changeIn unique fun old new => nofun
  | createCollection name => exact isUnique_put unique (unique name)
  | dropCollection name =>
    show (store.drop name).2.IsUnique
    unfold Store.drop
    cases store.get? name with
    | none => exact unique
    | some documents => exact isUnique_erase unique
  | _ => exact unique

end Collections

/-! ### What is true of every document -/

/-- **Whether every stored document has a property.** -/
def Store.Every (property : Document → Prop) (store : Store) : Prop :=
  ∀ name, ∀ document ∈ store.documents name, property document

section Every

variable {name : String} {documents changed : List Document} {store : Store}
  {property : Document → Prop}

/-- What a change leaves was there, or was made of something that was. -/
theorem mem_or_exists_of_change {filter : Document} {new? : Document → Option Document} {count : Nat}
    (made : Store.change filter new? documents = .ok (changed, count)) {document : Document}
    (member : document ∈ changed) :
    document ∈ documents ∨ ∃ old ∈ documents, new? old = some document := by
  induction documents generalizing changed count with
  | nil =>
    obtain ⟨rfl, -⟩ := Prod.mk.inj (Except.ok.inj made)
    cases member
  | cons first rest hypothesis =>
    obtain ⟨accepted, _, remaining⟩ := bind_eq_ok.mp made
    obtain ⟨⟨others, number⟩, more, whole⟩ := bind_eq_ok.mp remaining
    have behind (member : document ∈ others) :
        document ∈ first :: rest ∨ ∃ old ∈ first :: rest, new? old = some document :=
      (hypothesis more member).imp (List.mem_cons_of_mem _) fun ⟨old, inside, makes⟩ =>
        ⟨old, List.mem_cons_of_mem _ inside, makes⟩
    cases accepted with
    | false =>
      obtain ⟨rfl, -⟩ := Prod.mk.inj (Except.ok.inj whole)
      rcases List.mem_cons.mp member with rfl | later
      · exact .inl List.mem_cons_self
      · exact behind later
    | true =>
      obtain ⟨rfl, -⟩ := Prod.mk.inj (Except.ok.inj whole)
      rcases List.mem_append.mp member with new | later
      · exact .inr ⟨first, List.mem_cons_self, Option.mem_toList.mp new⟩
      · exact behind later

theorem every_put (every : store.Every property)
    (replaced : ∀ document ∈ documents, property document) :
    (store.put name documents).Every property := by
  intro other
  rw [documents_put]
  split
  · exact replaced
  · exact every other

theorem every_changeIn {filter : Document} {new? : Document → Option Document}
    (every : store.Every property)
    (keeps : ∀ old new, new? old = some new → property old → property new) :
    (store.changeIn name filter new?).2.Every property := by
  unfold Store.changeIn
  cases found : store.get? name with
  | none => exact every
  | some documents =>
    have before : store.documents name = documents := by
      rw [Store.documents, found]
      rfl
    have stored := every name
    rw [before] at stored
    simp only
    cases made : Store.change filter new? documents with
    | error error => exact every
    | ok result =>
      refine every_put every fun document member => ?_
      rcases mem_or_exists_of_change made member with kept | ⟨old, inside, makes⟩
      · exact stored document kept
      · exact keeps old document makes (stored old inside)

/-- **Every document keeps a property** that inserted documents have and updates do not take away. -/
theorem every_answer (call : Call) (every : store.Every property)
    (inserted : ∀ name documents checked, call = .insert name documents →
      Store.checkNew name (store.documents name) documents = .ok checked →
        ∀ document ∈ documents, property document)
    (updated : ∀ name filter set, call = .update name filter set →
      ∀ document, property document → property (Document.extend document set)) :
    (store.answer call).2.Every property := by
  cases call with
  | insert name documents =>
    show (store.insert name documents).2.Every property
    unfold Store.insert
    simp only
    cases checked : Store.checkNew name (store.documents name) documents with
    | error error => exact every_put every (every name)
    | ok done =>
      refine every_put every fun document member => ?_
      rcases List.mem_append.mp member with kept | new
      · exact every name document kept
      · exact inserted name documents done rfl checked document new
  | update name filter set =>
    refine every_changeIn every fun old new replaced holds => ?_
    obtain rfl := Option.some.inj replaced
    exact updated name filter set rfl old holds
  | delete name filter => exact every_changeIn every fun old new => nofun
  | createCollection name => exact every_put every (every name)
  | dropCollection name =>
    show (store.drop name).2.Every property
    unfold Store.drop
    cases store.get? name with
    | none => exact every
    | some documents =>
      intro other
      rw [Store.documents, get?_erase]
      split
      · nofun
      · exact every other
  | _ => exact every

end Every

/-! ### Documents with identifiers -/

/-- Whether every stored document has an identifier. -/
def Store.IsIdentified (store : Store) : Prop :=
  ∀ name, ∀ document ∈ store.documents name,
    Document.contains ObjectIdentifier.nativeField document = true

section Identified

variable {name : String} {known added : List Document} {store : Store}

/-- Documents that an insertion accepts have identifiers. -/
theorem contains_of_checkNew {checked : Unit}
    (accepted : Store.checkNew name known added = .ok checked) {document : Document}
    (member : document ∈ added) : Document.contains ObjectIdentifier.nativeField document = true := by
  induction added generalizing known with
  | nil => cases member
  | cons first rest hypothesis =>
    rw [Store.checkNew] at accepted
    cases identified : Document.get? ObjectIdentifier.nativeField first with
    | none =>
      rw [identified] at accepted
      cases accepted
    | some identifier =>
      rw [identified] at accepted
      simp only at accepted
      split at accepted
      · cases accepted
      · rcases List.mem_cons.mp member with rfl | later
        · rw [Document.contains, identified]
          rfl
        · exact hypothesis accepted later

theorem contains_extend {key : String} {document : Document} (fields : Document)
    (present : Document.contains key document = true) :
    Document.contains key (Document.extend document fields) = true := by
  induction fields generalizing document with
  | nil => exact present
  | cons field rest hypothesis =>
    show Document.contains key (Document.extend (Document.insert field.1 field.2 document) rest) = true
    refine hypothesis ?_
    rw [Document.contains_iff] at present ⊢
    rw [Document.keys_insert]
    split
    · exact present
    · exact List.mem_append_left _ present

/-- **No call leaves a document without an identifier.** -/
theorem isIdentified_answer (call : Call) (identified : store.IsIdentified) :
    (store.answer call).2.IsIdentified := by
  refine every_answer call identified ?_ fun name filter set _ document => contains_extend set
  exact fun name documents checked _ accepted document => contains_of_checkNew accepted

end Identified

/-! ### The shared state -/

/-- Whether everything that a server holds satisfies an invariant of collections. -/
structure Server.Holds (invariant : Store → Prop) (server : Server) : Prop where
  published : invariant server.published
  staged : ∀ transaction, server.transaction = some transaction → invariant transaction.staged

/-- Whether identifiers are unique in everything that a server holds. -/
structure Server.Intact (server : Server) : Prop where
  published : server.published.IsUnique
  staged : ∀ transaction, server.transaction = some transaction → transaction.staged.IsUnique

section Servers

variable {server next : Server} {event : Event} {invariant : Store → Prop} {allowed : Call → Prop}

/-- **Every move keeps what the calls keep of collections.** -/
theorem holds_moves
    (step : ∀ call store, allowed call → invariant store → invariant (Store.answer call store).2)
    (holds : server.Holds invariant) (move : Moves server event next)
    (permitted : ∀ scope entry, event = .answered scope entry → allowed entry.1) :
    next.Holds invariant := by
  cases move with
  | direct other => exact ⟨step _ _ (permitted _ _ rfl) holds.published, fun _ => nofun⟩
  | begin =>
    refine ⟨holds.published, fun transaction same => ?_⟩
    obtain rfl := Option.some.inj same
    exact holds.published
  | staged data =>
    refine ⟨holds.published, fun transaction same => ?_⟩
    obtain rfl := Option.some.inj same
    exact step _ _ (permitted _ _ rfl) (holds.staged _ rfl)
  | commit => exact ⟨holds.staged _ rfl, fun _ => nofun⟩
  | rollback => exact ⟨holds.published, fun _ => nofun⟩
  | drop => exact ⟨holds.published, fun _ => nofun⟩
  | wait _ => exact holds
  | nested => exact holds
  | refused _ _ => exact holds
  | dropped _ => exact holds

theorem holds_answer
    (step : ∀ call store, allowed call → invariant store → invariant (Store.answer call store).2)
    (scope : Scope) (call : Call) (server : Server) (permitted : allowed call)
    (holds : server.Holds invariant) : (Server.driver.answer scope call server).2.Holds invariant := by
  show (server.answer scope call).2.Holds invariant
  have move := moves_take server (.call scope call)
  cases answered : server.answer scope call with
  | mk answer state =>
    cases answer with
    | given result =>
      rw [take_of_given answered] at move
      refine holds_moves step holds move fun other entry same => ?_
      cases same
      exact permitted
    | waiting =>
      rw [take_of_waiting answered] at move
      exact holds_moves step holds move fun _ _ => nofun

/-- What a scope sees is part of what the server holds. -/
theorem invariant_of_visible? {scope : Scope} {store : Store} (holds : server.Holds invariant)
    (visible : server.visible? scope = some store) : invariant store := by
  cases scope with
  | connection =>
    unfold Server.visible? at visible
    simp only at visible
    split at visible
    · cases visible
    · obtain rfl := Option.some.inj visible
      exact holds.published
  | transaction number => exact holds.staged _ (Server.transaction_of_staged? visible)

theorem intact_empty : Server.empty.Intact := ⟨fun _ => unique_nil, fun _ => nofun⟩

/-- **The shared state keeps unique identifiers** under calls that leave them alone. -/
theorem intact_answer (scope : Scope) (call : Call) (server : Server) (keeps : KeepsIdentifiers call)
    (intact : server.Intact) : (Server.driver.answer scope call server).2.Intact := by
  have holds : (Server.driver.answer scope call server).2.Holds Store.IsUnique :=
    holds_answer (fun _ _ keeps unique => unique_answer unique keeps) scope call server keeps
      ⟨intact.published, intact.staged⟩
  exact ⟨holds.published, holds.staged⟩

end Servers

end Memory

end Polystore
