/-
**Checks in both modes.**

A check accepts the same documents whether it is suppressed or not. It tells of the first item of an array
that does not fit, and a list of documents passes exactly if the array of the same documents does.

* `all_or_leastUnfit`: a list fits as a whole, or has a first item that does not;
* `checkItems_of_leastUnfit`, `checkMultiple_of_leastUnfit`, `requireIdentifiers_of_leastUnfit`: the item
  that a check tells of;
* `checks_in_both_modes`: what the checks accept, and how they refuse everything else.
-/

import Mathlib.Data.Set.List
import Polystore.Validation

namespace Polystore

/-- **Whether a document has an identifier.** Null and undefined are none. -/
def Document.HasIdentifier (document : Document) : Prop :=
  ∃ identifier, get? idField document = some identifier ∧ identifier ≠ .null ∧ identifier ≠ .undefined

/-- Whether an item is the first of a list that does not fit, and where it stands. -/
structure LeastUnfit {α : Type} (fits : α → Prop) (items : List α) (index : Nat) (item : α) : Prop where
  found : items[index]? = some item
  unfit : ¬ fits item
  before : ∀ earlier < index, ∀ other, items[earlier]? = some other → fits other

section Lists

variable {α : Type} {fits : α → Prop} {items rest : List α} {index : Nat} {item first : α}

theorem LeastUnfit.head (unfit : ¬ fits item) : LeastUnfit fits (item :: rest) 0 item :=
  ⟨rfl, unfit, nofun⟩

/-- The first unfit item behind one that fits. -/
theorem leastUnfit_cons_iff (fit : fits first) :
    LeastUnfit fits (first :: rest) (index + 1) item ↔ LeastUnfit fits rest index item := by
  constructor
  · rintro ⟨found, unfit, before⟩
    exact ⟨found, unfit, fun earlier less other => before (earlier + 1) (Nat.succ_lt_succ less) other⟩
  · rintro ⟨found, unfit, before⟩
    refine ⟨found, unfit, fun earlier less other here => ?_⟩
    cases earlier with
    | zero => exact Option.some.inj here ▸ fit
    | succ earlier => exact before earlier (Nat.lt_of_succ_lt_succ less) other here

/-- **A list fits as a whole, or has a first item that does not.** -/
theorem all_or_leastUnfit (fits : α → Prop) (items : List α) :
    (∀ item ∈ items, fits item) ∨ ∃ index item, LeastUnfit fits items index item := by
  induction items with
  | nil => exact .inl nofun
  | cons first rest hypothesis =>
    by_cases fit : fits first
    · rcases hypothesis with all | ⟨index, item, least⟩
      · exact .inl (List.forall_mem_cons.mpr ⟨fit, all⟩)
      · exact .inr ⟨index + 1, item, (leastUnfit_cons_iff fit).mpr least⟩
    · exact .inr ⟨0, first, .head fit⟩

theorem LeastUnfit.not_forall (least : LeastUnfit fits items index item) :
    ¬ ∀ item ∈ items, fits item :=
  fun all => least.unfit (all item (List.mem_of_getElem? least.found))

/-- The first unfit item is the one that a search finds. -/
theorem LeastUnfit.findIdx?_eq {test : α → Bool} (least : LeastUnfit fits items index item)
    (tests : ∀ item, test item = false ↔ fits item) : items.findIdx? test = some index := by
  obtain ⟨inside, here⟩ := List.getElem?_eq_some_iff.mp least.found
  refine List.findIdx?_eq_some_iff_getElem.mpr ⟨inside, ?_, fun earlier less => ?_⟩
  · rw [here, ← Bool.not_eq_false, tests]
    exact least.unfit
  · rw [Bool.not_eq_true, tests]
    exact least.before earlier less _ (List.getElem?_eq_getElem (Nat.lt_trans less inside))

end Lists

namespace Validator

/-- The mode in which failed checks are answers. -/
def suppressing : Validator := ⟨true⟩

/-- **How a check goes in both modes**: it accepts in both, or it fails on an invalid document in one and
answers that in the other. -/
structure InBothModes (check : Validator → Except DatabaseError Bool) (accepted : Prop) : Prop where
  accepts : accepted → check raising = .ok true ∧ check suppressing = .ok true
  refuses : ¬ accepted →
    (∃ reason, check raising = .error (.invalidDocument reason)) ∧ check suppressing = .ok false

/-- Whether a document has an identifier if one is wanted, and has none if not. -/
def Fits (wanted : Bool) (document : Document) : Prop := wanted = true ↔ document.HasIdentifier

/-- Whether an item of an array is a document that fits. -/
def ItemFits (wanted : Bool) (item : Value) : Prop :=
  ∃ document, item = .document document ∧ Fits wanted document

/-- What is wrong with an item of an array that does not fit. -/
def fault (wanted : Bool) : Value → String
  | .document _ => if wanted then " must contain an id" else " must not contain an id"
  | _ => " is not a document"

section Checks

variable {check : Validator → Except DatabaseError Bool} {accepted : Prop} {reason : String}
  {validator : Validator} {wanted : Bool} {document : Document} {documents : List Document}
  {items : List Value} {item : Value} {index start : Nat}

theorem InBothModes.of_accepted (holds : accepted) (each : ∀ validator, check validator = .ok true) :
    InBothModes check accepted :=
  ⟨fun _ => ⟨each raising, each suppressing⟩, fun refused => absurd holds refused⟩

theorem InBothModes.of_refused (fails : ¬ accepted)
    (each : ∀ validator, check validator = validator.refuse reason) : InBothModes check accepted :=
  ⟨fun holds => absurd holds fails, fun _ => ⟨⟨reason, each raising⟩, each suppressing⟩⟩

/-- A check accepts exactly what it is to accept. -/
theorem InBothModes.iff (both : InBothModes check accepted) (validator : Validator) :
    check validator = .ok true ↔ accepted := by
  by_cases holds : accepted
  · refine iff_of_true ?_ holds
    obtain ⟨_ | _⟩ := validator
    · exact (both.accepts holds).1
    · exact (both.accepts holds).2
  · refine iff_of_false ?_ holds
    obtain ⟨⟨reason, failed⟩, denied⟩ := both.refuses holds
    obtain ⟨_ | _⟩ := validator
    · exact failed ▸ nofun
    · exact denied ▸ nofun

/-! ### The checks -/

theorem hasId_iff : Document.hasId document = true ↔ document.HasIdentifier := by
  rw [Document.hasId, Document.present?, Document.HasIdentifier]
  cases Document.get? idField document with
  | none => simp
  | some identifier => cases identifier <;> simp [Value.isNullish]

theorem hasId_eq_iff : Document.hasId document = wanted ↔ Fits wanted document := by
  rw [Fits, ← hasId_iff, eq_comm, Bool.eq_iff_iff]

theorem isDocument_iff : (!isDocument item) = false ↔ ∃ document, item = .document document := by
  cases item <;> simp [isDocument]

theorem checkItems_cons_of_fits (fit : ItemFits wanted item) (rest : List Value) :
    validator.checkItems wanted start (item :: rest) =
      validator.checkItems wanted (start + 1) rest := by
  obtain ⟨document, rfl, fits⟩ := fit
  rw [checkItems, if_pos (hasId_eq_iff.mpr fits)]

theorem checkItems_of_forall (fit : ∀ item ∈ items, ItemFits wanted item) :
    validator.checkItems wanted start items = .ok true := by
  induction items generalizing start with
  | nil => rfl
  | cons item rest hypothesis =>
    obtain ⟨first, others⟩ := List.forall_mem_cons.mp fit
    rw [checkItems_cons_of_fits first, hypothesis others]

/-- An item that does not fit ends the check of an array, -/
theorem checkItems_cons_of_unfit (unfit : ¬ ItemFits wanted item) (rest : List Value) :
    validator.checkItems wanted start (item :: rest) =
      validator.refuse ("Document at index " ++ toString start ++ fault wanted item) := by
  cases item with
  | document fields =>
    have other : ¬ Document.hasId fields = wanted := fun same =>
      unfit ⟨fields, rfl, hasId_eq_iff.mp same⟩
    rw [checkItems, if_neg other]
    cases wanted <;> rfl
  | _ => rfl

/-- so that it tells of the first one of them. -/
theorem checkItems_of_leastUnfit (least : LeastUnfit (ItemFits wanted) items index item) :
    validator.checkItems wanted start items =
      validator.refuse ("Document at index " ++ toString (start + index) ++ fault wanted item) := by
  induction items generalizing start index with
  | nil => cases least.found
  | cons first rest hypothesis =>
    by_cases fit : ItemFits wanted first
    · cases index with
      | zero => exact absurd (Option.some.inj least.found ▸ fit) least.unfit
      | succ index =>
        rw [checkItems_cons_of_fits fit, hypothesis ((leastUnfit_cons_iff fit).mp least), Nat.add_assoc,
          Nat.add_comm 1]
    · cases index with
      | zero =>
        obtain rfl := Option.some.inj least.found
        exact checkItems_cons_of_unfit fit rest
      | succ index => exact absurd (least.before 0 (Nat.succ_pos index) first rfl) fit

theorem exists_documents (all : ∀ item ∈ items, ∃ document, item = .document document) :
    ∃ documents : List Document, documents.map .document = items := by
  have inside : items ∈ Set.range (List.map Value.document) := by
    rw [Set.range_list_map]
    exact fun item member => (all item member).imp fun _ same => same.symm
  exact inside

theorem checkMultiple_of_forall (documents : List Document) :
    validator.checkMultiple (.array (documents.map .document)) = .ok true := by
  have none : (documents.map Value.document).findIdx? (!isDocument ·) = none := by
    simp [List.findIdx?_eq_none_iff, isDocument]
  rw [checkMultiple, none]

theorem checkMultiple_of_leastUnfit
    (least : LeastUnfit (fun item => ∃ document, item = .document document) items index item) :
    validator.checkMultiple (.array items) =
      validator.refuse ("Document at index " ++ toString index ++ " is not a document") := by
  rw [checkMultiple, least.findIdx?_eq fun _ => isDocument_iff]
  rfl

theorem requireIdentifiers_of_forall
    (each : ∀ document ∈ documents, Document.hasId document = wanted) :
    validator.requireIdentifiers wanted documents = .ok true := by
  have none : documents.findIdx? (Document.hasId · != wanted) = none :=
    List.findIdx?_eq_none_iff.mpr fun document member => by rw [each document member, bne_self_eq_false]
  rw [requireIdentifiers, none]

theorem requireIdentifiers_of_leastUnfit (least : LeastUnfit (Fits wanted) documents index document) :
    validator.requireIdentifiers wanted documents =
      validator.refuse (identifierReason (if 1 < documents.length then some index else none) wanted) := by
  have tests (document : Document) : (Document.hasId document != wanted) = false ↔
      Fits wanted document := by
    rw [bne_eq_false_iff_eq, hasId_eq_iff]
  rw [requireIdentifiers, least.findIdx?_eq tests]

/-! ### Both modes -/

theorem inBothModes_checkSingle (value : Value) :
    InBothModes (checkSingle · value) (∃ document, value = .document document) := by
  cases value with
  | document fields => exact .of_accepted ⟨fields, rfl⟩ fun _ => rfl
  | _ => exact .of_refused (fun ⟨_, same⟩ => nomatch same) fun _ => rfl

theorem inBothModes_checkMultiple (value : Value) :
    InBothModes (checkMultiple · value)
      (∃ documents : List Document, value = .array (documents.map .document)) := by
  cases value with
  | array items =>
    rcases all_or_leastUnfit (fun item => ∃ document, item = Value.document document) items with
      all | ⟨index, item, least⟩
    · obtain ⟨documents, rfl⟩ := exists_documents all
      exact .of_accepted ⟨documents, rfl⟩ fun _ => checkMultiple_of_forall documents
    · refine .of_refused ?_ fun _ => checkMultiple_of_leastUnfit least
      rintro ⟨documents, same⟩
      obtain rfl := Value.array.inj same
      exact least.not_forall fun item member => (List.mem_map.mp member).imp fun _ both => both.2.symm
  | _ => exact .of_refused (fun ⟨_, same⟩ => nomatch same) fun _ => rfl

theorem inBothModes_checkIdentifiers (wanted : Bool) (value : Value) :
    InBothModes (checkIdentifiers · wanted value)
      (ItemFits wanted value ∨ ∃ items, value = .array items ∧ ∀ item ∈ items, ItemFits wanted item) := by
  cases value with
  | document fields =>
    by_cases fit : Document.hasId fields = wanted
    · exact .of_accepted (.inl ⟨fields, rfl, hasId_eq_iff.mp fit⟩) fun _ => if_pos fit
    · refine .of_refused ?_ fun _ => if_neg fit
      rintro (⟨document, same, fits⟩ | ⟨items, same, -⟩)
      · obtain rfl := Value.document.inj same
        exact fit (hasId_eq_iff.mpr fits)
      · cases same
  | array items =>
    rcases all_or_leastUnfit (ItemFits wanted) items with all | ⟨index, item, least⟩
    · exact .of_accepted (.inr ⟨items, rfl, all⟩) fun _ => checkItems_of_forall all
    · refine .of_refused ?_ fun _ => checkItems_of_leastUnfit least
      rintro (⟨document, same, -⟩ | ⟨others, same, all⟩)
      · cases same
      · obtain rfl := Value.array.inj same
        exact least.not_forall all
  | _ =>
    refine .of_refused ?_ fun _ => rfl
    rintro (⟨document, same, -⟩ | ⟨items, same, -⟩) <;> cases same

theorem inBothModes_requireIdentifiers (wanted : Bool) (documents : List Document) :
    InBothModes (requireIdentifiers · wanted documents)
      (∀ document ∈ documents, Fits wanted document) := by
  rcases all_or_leastUnfit (Fits wanted) documents with all | ⟨index, document, least⟩
  · exact .of_accepted all fun _ =>
      requireIdentifiers_of_forall fun document member => hasId_eq_iff.mpr (all document member)
  · exact .of_refused least.not_forall fun _ => requireIdentifiers_of_leastUnfit least

/-- A check that refuses for the first unfit item of a list fails as that item says. -/
theorem eq_error_iff_leastUnfit {α : Type} {fits : α → Prop} {list : List α} {reason : Nat → α → String}
    {result : Except DatabaseError Bool} (accepts : (∀ item ∈ list, fits item) → result = .ok true)
    (refuses : ∀ index item, LeastUnfit fits list index item →
      result = raising.refuse (reason index item)) (error : DatabaseError) :
    result = .error error ↔ ∃ index item, LeastUnfit fits list index item ∧
      error = .invalidDocument (reason index item) := by
  constructor
  · rintro rfl
    rcases all_or_leastUnfit fits list with all | ⟨index, item, least⟩
    · cases accepts all
    · exact ⟨index, item, least, Except.error.inj (refuses index item least)⟩
  · rintro ⟨index, item, least, rfl⟩
    exact refuses index item least

/-- **The checks in both modes.** Each check accepts the same in both modes, fails on an invalid document
where it is not suppressed, and answers `false` where it is. On arrays and lists of documents the failure
tells of the first item that does not fit. A list of documents is accepted exactly if the array of the same
documents is. -/
theorem checks_in_both_modes :
    (∀ value, InBothModes (checkSingle · value) (∃ document, value = .document document)) ∧
    (∀ value, InBothModes (checkMultiple · value)
      (∃ documents : List Document, value = .array (documents.map .document))) ∧
    (∀ wanted value, InBothModes (checkIdentifiers · wanted value)
      (ItemFits wanted value ∨ ∃ items, value = .array items ∧ ∀ item ∈ items, ItemFits wanted item)) ∧
    (∀ wanted documents, InBothModes (requireIdentifiers · wanted documents)
      (∀ document ∈ documents, Fits wanted document)) ∧
    (∀ items error, raising.checkMultiple (.array items) = .error error ↔
      ∃ index item, LeastUnfit (fun item => ∃ document, item = .document document) items index item ∧
        error = .invalidDocument ("Document at index " ++ toString index ++ " is not a document")) ∧
    (∀ wanted items error, raising.checkIdentifiers wanted (.array items) = .error error ↔
      ∃ index item, LeastUnfit (ItemFits wanted) items index item ∧
        error = .invalidDocument ("Document at index " ++ toString index ++ fault wanted item)) ∧
    (∀ wanted documents error, raising.requireIdentifiers wanted documents = .error error ↔
      ∃ index document, LeastUnfit (Fits wanted) documents index document ∧
        error = .invalidDocument
          (identifierReason (if 1 < documents.length then some index else none) wanted)) ∧
    ∀ (validator : Validator) (wanted : Bool) (documents : List Document),
      validator.requireIdentifiers wanted documents = .ok true ↔
        validator.checkIdentifiers wanted (.array (documents.map .document)) = .ok true := by
  refine ⟨inBothModes_checkSingle, inBothModes_checkMultiple, inBothModes_checkIdentifiers,
    inBothModes_requireIdentifiers, fun items => ?_, fun wanted items => ?_, fun wanted documents => ?_,
    fun validator wanted documents => ?_⟩
  · refine eq_error_iff_leastUnfit (fun all => ?_) fun index item least => checkMultiple_of_leastUnfit least
    obtain ⟨documents, rfl⟩ := exists_documents all
    exact checkMultiple_of_forall documents
  · refine eq_error_iff_leastUnfit checkItems_of_forall fun index item least => ?_
    rw [checkIdentifiers, checkItems_of_leastUnfit least, Nat.zero_add]
  · exact eq_error_iff_leastUnfit (((inBothModes_requireIdentifiers wanted documents).iff raising).mpr)
      fun index document least => requireIdentifiers_of_leastUnfit least
  · rw [(inBothModes_requireIdentifiers wanted documents).iff validator,
      (inBothModes_checkIdentifiers wanted _).iff validator]
    simp [ItemFits]

end Checks

end Validator

end Polystore
