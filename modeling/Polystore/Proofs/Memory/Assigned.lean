/-
**Identifiers that are assigned.**

The store form of an identifier is an object identifier, unless a caller writes the field `_id` himself:
an insertion makes one out of the `id` of a document, or draws a new one.

* `yields_nativeDocuments`: what is inserted for documents that spare the identifier;
* `isAssigned_of_session`: so every document of a session that inserts no others is identified by an
  object identifier.
-/

import Polystore.Proofs.Memory.Session

namespace Polystore

open Memory Native

/-- **Whether a document is identified by an object identifier.** -/
def Document.IsAssigned (document : Document) : Prop :=
  ∃ identifier, Document.get? ObjectIdentifier.nativeField document = some (.objectId identifier)

/-- Whether a call inserts documents with object identifiers only, and leaves those of others alone. -/
def Memory.AssignsIdentifiers : Call → Prop
  | .insert _ documents => ∀ document ∈ documents, document.IsAssigned
  | call => KeepsIdentifiers call

/-! ### Documents as they are stored -/

section Stored

variable {payload document : Document} {documents : List Document}

/-- Fields beside the identifier do not change it. -/
theorem isAssigned_extend (identifier : ObjectId)
    (spared : Document.get? ObjectIdentifier.nativeField payload = none) :
    Document.IsAssigned (Document.extend [(ObjectIdentifier.nativeField, .objectId identifier)]
      (Document.erase idField payload)) := by
  refine ⟨identifier, ?_⟩
  have beside : Document.get? ObjectIdentifier.nativeField (Document.erase idField payload) = none := by
    rw [Document.get?_erase_of_ne (by decide), spared]
  rw [Document.get?_extend_of_none beside]
  rfl

/-- An identifier that can be stored is an object identifier. -/
theorem exists_of_nativeValue {shown native : Value}
    (read : ObjectIdentifier.nativeValue shown = .ok native) :
    ∃ identifier, native = .objectId identifier := by
  cases shown with
  | string text =>
    obtain ⟨identifier, -, rfl⟩ := map_eq_ok.mp read
    exact ⟨identifier, rfl⟩
  | objectId identifier => exact ⟨identifier, (Except.ok.inj read).symm⟩
  | _ => cases read

theorem isAssigned_of_nativeDocument (shows : Document.hasId payload = true)
    (spared : Document.get? ObjectIdentifier.nativeField payload = none)
    (made : ObjectIdentifier.nativeDocument payload = .ok document) : document.IsAssigned := by
  obtain ⟨shown, present⟩ := Option.isSome_iff_exists.mp shows
  rw [ObjectIdentifier.nativeDocument, present] at made
  obtain ⟨native, read, written⟩ := bind_eq_ok.mp made
  obtain ⟨identifier, rfl⟩ := exists_of_nativeValue read
  obtain rfl := Except.ok.inj written
  exact isAssigned_extend identifier spared

/-- **What is inserted for documents that spare the identifier** has object identifiers. -/
theorem yields_nativeDocuments (spares : ∀ document ∈ documents, document.sparesIdentifier = true) :
    (nativeDocuments documents).Yields fun natives => ∀ native ∈ natives, native.IsAssigned := by
  induction documents with
  | nil => exact fun native => nofun
  | cons document rest hypothesis =>
    have spared := get?_native_of_spares (spares document List.mem_cons_self)
    have others := hypothesis fun other inside => spares other (List.mem_cons_of_mem _ inside)
    have both (native : Document) (assigned : native.IsAssigned) :
        (nativeDocuments rest >>= fun others => pure (native :: others)).Yields
          fun natives => ∀ native ∈ natives, native.IsAssigned :=
      others.bind fun _ each => List.forall_mem_cons.mpr ⟨assigned, each⟩
    unfold nativeDocuments
    simp only
    split
    · rename_i shows
      exact (Program.yields_ofExcept fun native made =>
        isAssigned_of_nativeDocument shows spared made).bind both
    · exact fun bits => both _ (isAssigned_extend (ObjectId.ofDraw bits) spared)

theorem calls_insertRows (scope : Scope) (table : String)
    (spares : ∀ document ∈ documents, document.sparesIdentifier = true) :
    (insertRows scope table documents).Calls AssignsIdentifiers :=
  (calls_nativeDocuments documents).bind_of_yields (yields_nativeDocuments spares) fun _ assigned =>
    (Program.calls_ask assigned).bind fun _ => Program.calls_pure _

end Stored

/-! ### Stores -/

section Stores

variable {store : Store} {scope : Scope}

/-- **A call that assigns identifiers** leaves nothing but assigned ones. -/
theorem isAssigned_answer (call : Call) (assigns : AssignsIdentifiers call)
    (assigned : store.Every Document.IsAssigned) :
    (store.answer call).2.Every Document.IsAssigned := by
  refine every_answer call assigned ?_ ?_
  · rintro name documents checked rfl -
    exact assigns
  · rintro name filter set rfl document ⟨identifier, stored⟩
    exact ⟨identifier, (Document.get?_extend_of_none assigns document).trans stored⟩

/-- **What a session leaves has assigned identifiers**, if no document that it writes has an `_id`. -/
theorem isAssigned_of_session {α : Type} {program : Program interface α}
    (session : SessionOf (fun document => document.sparesIdentifier = true) program)
    (identifiers : IdentifierSource)
    (visible : (program.run Server.driver ⟨identifiers, Server.empty⟩).2.state.visible? scope =
      some store) : store.Every Document.IsAssigned := by
  have calls : program.Calls AssignsIdentifiers :=
    session.calls (fun call keeps other => by cases call <;> first | exact keeps | cases other)
      fun scope table _ spares => calls_insertRows scope table spares
  refine invariant_of_visible? (calls.run (holds_answer ?_) ?_) visible
  · exact fun call _ assigns assigned => isAssigned_answer call assigns assigned
  · exact ⟨fun _ => nofun, fun _ => nofun⟩

end Stores

end Polystore
