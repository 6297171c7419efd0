/-
**Joins of rearranged rows.**

What an inner or left join looks up depends on which rows there are and not on their order: equal keys
ask for the same documents, whichever of them is collected. So joins of rearranged rows fail alike, or
give rearranged rows.

* `isWanted_lookupKeys_congr`: the documents that are looked up;
* `evaluate_lookupJoined_congr`: what a join fetches;
* `evaluate_applyJoins_perm`: the joined rows.
-/

import Mathlib.Data.Multiset.Basic
import Polystore.Proofs.Joins.Rows
import Polystore.Proofs.Program.Reading

namespace Polystore

open Memory Native

/-! ### The keys of rearranged rows -/

section Keys

variable {join : Join} {rows others : List Document} {key : Value} {document : Document}

/-- A readable key is an identifier or its text. -/
theorem isDiscrete_of_readable (identifies : join.foreignKey = idField) (readable : Readable join key) :
    key.isDiscrete = true := by
  obtain ⟨native, read⟩ := readable identifies
  cases key <;> first | rfl | cases read

/-- Each key of rows is equal to a key of all rows that are at least these. -/
theorem exists_equal_lookupKey (subset : rows ⊆ others)
    (distinct : ∀ row ∈ others, Document.hasDistinctKeys row = true)
    (member : key ∈ lookupKeys join [] rows) :
    Readable join key ∧ ∃ kept ∈ lookupKeys join [] others, key.equals kept = true ∨ key = kept := by
  rcases exists_row_of_mem_lookupKeys member with before | ⟨readable, row, inside, keyed⟩
  · cases before
  · obtain ⟨kept, among, stands⟩ := exists_lookupKey [] (subset inside) keyed readable
    refine ⟨readable, kept, among, stands.imp (fun equal => ?_) Eq.symm⟩
    rcases exists_row_of_mem_lookupKeys among with before | ⟨_, other, there, own⟩
    · cases before
    · exact Value.equals_symm kept (hasDistinctKeys_of_localKey? (distinct other there) own) equal

theorem isWanted_lookupKeys_mono (subset : rows ⊆ others)
    (distinct : ∀ row ∈ others, Document.hasDistinctKeys row = true)
    (wanted : isWanted join.foreignKey (lookupKeys join [] rows) document = true) :
    isWanted join.foreignKey (lookupKeys join [] others) document = true := by
  obtain ⟨key, member, found⟩ := List.any_eq_true.mp wanted
  obtain ⟨readable, kept, among, stands⟩ := exists_equal_lookupKey subset distinct member
  refine List.any_eq_true.mpr ⟨kept, among, ?_⟩
  rcases stands with equal | rfl
  · by_cases identifies : join.foreignKey = idField
    · obtain rfl := Value.eq_of_equals (isDiscrete_of_readable identifies readable) equal
      exact found
    · rw [Predicate.meant_of_ne identifies] at found ⊢
      exact equalsOperand_trans_equals found equal
  · exact found

/-- **Which documents are looked up depends only on which rows there are**, not on their order. -/
theorem isWanted_lookupKeys_congr (same : ∀ row, row ∈ rows ↔ row ∈ others)
    (distinct : ∀ row ∈ rows, Document.hasDistinctKeys row = true) :
    isWanted join.foreignKey (lookupKeys join [] rows) =
      isWanted join.foreignKey (lookupKeys join [] others) := by
  funext document
  rw [Bool.eq_iff_iff]
  exact ⟨isWanted_lookupKeys_mono (fun row => (same row).mp) fun row there => distinct row ((same row).mpr there),
    isWanted_lookupKeys_mono (fun row => (same row).mpr) distinct⟩

theorem lookupKeys_eq_nil_iff (same : ∀ row, row ∈ rows ↔ row ∈ others)
    (distinct : ∀ row ∈ rows, Document.hasDistinctKeys row = true) :
    lookupKeys join [] rows = [] ↔ lookupKeys join [] others = [] := by
  have empty {former latter : List Document} (subset : former ⊆ latter)
      (distinct : ∀ row ∈ latter, Document.hasDistinctKeys row = true)
      (none : lookupKeys join [] latter = []) : lookupKeys join [] former = [] := by
    refine List.eq_nil_iff_forall_not_mem.mpr fun key member => ?_
    obtain ⟨_, kept, among, _⟩ := exists_equal_lookupKey subset distinct member
    rw [none] at among
    cases among
  exact ⟨empty (fun row => (same row).mpr) distinct,
    empty (fun row => (same row).mp) fun row there => distinct row ((same row).mpr there)⟩

end Keys

/-! ### What rearranged rows fetch -/

section Fetched

variable {scope : Scope} {join : Join} {rows others : List Document} {store : Store}
  {world : World Server}

/-- A condition on a field that looks like an operator is a fault, whatever it asks for. -/
theorem passes_onColumn_of_operator {column : String} (operator : Text.startsWith "$" column = true)
    (operators asked document : Document) :
    passes document (onColumn column operators) = passes document (onColumn column asked) := by
  have stored : field column = column := by
    refine if_neg fun same => ?_
    rw [same] at operator
    exact absurd operator (by decide)
  simp only [onColumn, stored, passes_singleton, entryPasses, fieldPasses, operator, if_true]

/-- A lookup by a field other than the identifier has a filter on that field. -/
theorem exists_filter_keyLookup {table column : String} (other : column ≠ idField) (keys : List Value) :
    ∃ operators, Native.filter (keyLookup table column keys).clauses = .ok (onColumn column operators) := by
  have many (keys : List Value) : Native.filter [(.and, .oneOf column keys false)] =
      .ok (onColumn column [("$in", .array (keys.map (Predicate.meant column)))]) := by
    rw [Native.filter, conditions, condition, operands_of_isIdentifier fun same => absurd same other]
    rfl
  match keys with
  | [] => exact ⟨_, many []⟩
  | [key] =>
    refine ⟨[("$eq", Predicate.meant column key)], ?_⟩
    show Native.filter [(.and, .compare column .equal key)] = _
    rw [Native.filter, conditions, condition, operand_of_isIdentifier fun same => absurd same other]
    rfl
  | first :: second :: rest => exact ⟨_, many (first :: second :: rest)⟩

theorem matching_congr {filter asked : Document} {documents : List Document}
    (same : ∀ document ∈ documents, passes document filter = passes document asked) :
    matching filter documents = matching asked documents := by
  induction documents with
  | nil => rfl
  | cons first rest hypothesis =>
    rw [matching, matching, same first List.mem_cons_self,
      hypothesis fun document member => same document (List.mem_cons_of_mem first member)]

/-- The keys of an inner or left join, if there are any, make its lookup. -/
theorem lookupJoined_narrow (narrow : join.kind = .inner ∨ join.kind = .left) (rows : List Document) :
    lookupJoined scope join rows =
      if lookupKeys join [] rows = [] then .done []
      else Program.ofExcept (Native.read (keyLookup join.table join.foreignKey (lookupKeys join [] rows)))
        >>= findRows scope join.table := by
  have asked : joinQuery? join rows =
      if (lookupKeys join [] rows).isEmpty then none
      else some (keyLookup join.table join.foreignKey (lookupKeys join [] rows)) := by
    unfold joinQuery?
    rcases narrow with kind | kind <;> rw [kind]
  rw [lookupJoined, asked]
  cases lookupKeys join [] rows <;> rfl

theorem evaluate_findRows (collection : String) (read : Native.Read) :
    (findRows scope collection read).evaluate store.reply =
      (found read (store.documents collection)).map (·.map ObjectIdentifier.canonicalDocument) := by
  have asked : (Program.ask interface scope (Call.find collection read)).evaluate store.reply =
      found read (store.documents collection) := Program.evaluate_ask _ _
  refine (Program.evaluate_bind _ _).trans ((congrArg (· >>= _) asked).trans ?_)
  cases found read (store.documents collection) <;> rfl

/-- What an inner or left join fetches from a named table by a field that does not look like an
operator. -/
theorem evaluate_lookupJoined (visible : world.state.visible? scope = some store)
    (narrow : join.kind = .inner ∨ join.kind = .left) (named : join.table ≠ "")
    (plain : Text.startsWith "$" join.foreignKey = false) (rows : List Document) :
    (lookupJoined scope join rows).evaluate store.reply =
      .ok (((store.documents join.table).filter
        (isWanted join.foreignKey (lookupKeys join [] rows))).map
          ObjectIdentifier.canonicalDocument) := by
  have ran := (run_of_reads visible (reads_lookupJoined join rows)).symm.trans
    (run_lookupJoined visible narrow named plain)
  exact Outcome.finished.inj (Prod.mk.inj ran).1

/-- A lookup in no table fails, and one by a field that looks like an operator does for every document,
whatever the keys. -/
theorem evaluate_lookup_congr
    (faulty : ¬ (join.table ≠ "" ∧ Text.startsWith "$" join.foreignKey = false)) (keys asked : List Value) :
    (Program.ofExcept (Native.read (keyLookup join.table join.foreignKey keys))
        >>= findRows scope join.table).evaluate store.reply =
      (Program.ofExcept (Native.read (keyLookup join.table join.foreignKey asked))
        >>= findRows scope join.table).evaluate store.reply := by
  by_cases named : join.table = ""
  · have unbound (keys : List Value) :
        Native.read (keyLookup join.table join.foreignKey keys) = .error .missingTable := by
      have missing : (keyLookup join.table join.foreignKey keys).requireTable = .error .missingTable :=
        if_pos named
      rw [Native.read, missing]
      rfl
    rw [unbound, unbound]
  · have operator : Text.startsWith "$" join.foreignKey = true :=
      (Bool.eq_false_or_eq_true _).resolve_right fun plain => faulty ⟨named, plain⟩
    have other : join.foreignKey ≠ idField := fun same => by
      rw [same] at operator
      exact absurd operator (by decide)
    have looked (keys : List Value) : ∃ operators,
        Native.read (keyLookup join.table join.foreignKey keys) =
          .ok ⟨onColumn join.foreignKey operators, none, none, none, none⟩ := by
      obtain ⟨operators, made⟩ := exists_filter_keyLookup other keys
      have bound : (keyLookup join.table join.foreignKey keys).requireTable = .ok join.table :=
        if_neg named
      exact ⟨operators, read_eq_plainRead bound rfl made⟩
    obtain ⟨operators, first⟩ := looked keys
    obtain ⟨others, second⟩ := looked asked
    have alike : matching (onColumn join.foreignKey operators) (store.documents join.table) =
        matching (onColumn join.foreignKey others) (store.documents join.table) :=
      matching_congr fun document _ => passes_onColumn_of_operator operator operators others document
    rw [first, second, Program.evaluate_bind, Program.evaluate_bind, Program.evaluate_ofExcept,
      Program.evaluate_ofExcept]
    show (findRows scope join.table _).evaluate _ = (findRows scope join.table _).evaluate _
    rw [evaluate_findRows, evaluate_findRows, found, found, alike]

/-- **What a join fetches depends only on which rows there are**: it fails alike, or the same rows
are fetched. -/
theorem evaluate_lookupJoined_congr (visible : world.state.visible? scope = some store)
    (same : ∀ row, row ∈ rows ↔ row ∈ others)
    (distinct : ∀ row ∈ rows, Document.hasDistinctKeys row = true) :
    (lookupJoined scope join rows).evaluate store.reply =
      (lookupJoined scope join others).evaluate store.reply := by
  by_cases narrow : join.kind = .inner ∨ join.kind = .left
  · by_cases clean : join.table ≠ "" ∧ Text.startsWith "$" join.foreignKey = false
    · rw [evaluate_lookupJoined visible narrow clean.1 clean.2,
        evaluate_lookupJoined visible narrow clean.1 clean.2, isWanted_lookupKeys_congr same distinct]
    · rw [lookupJoined_narrow narrow, lookupJoined_narrow narrow]
      by_cases keyless : lookupKeys join [] rows = []
      · rw [if_pos keyless, if_pos ((lookupKeys_eq_nil_iff same distinct).mp keyless)]
      · rw [if_neg keyless, if_neg fun empty => keyless ((lookupKeys_eq_nil_iff same distinct).mpr empty)]
        exact evaluate_lookup_congr clean _ _
  · have asked (rows : List Document) : joinQuery? join rows = some (Query.ofTable join.table) := by
      unfold joinQuery?
      cases kind : join.kind with
      | inner => exact absurd (.inl kind) narrow
      | left => exact absurd (.inr kind) narrow
      | right | full | cross => rfl
    rw [lookupJoined, lookupJoined, asked, asked]

/-- What a join fetches are rows of its table. -/
theorem subset_tableRows {joined : List Document}
    (fetched : (lookupJoined scope join rows).evaluate store.reply = .ok joined) :
    joined ⊆ tableRows store join.table := by
  intro row member
  unfold lookupJoined at fetched
  split at fetched
  · cases fetched
    cases member
  · rename_i query asked
    have whole : storeProjection query = none := by
      unfold joinQuery? at asked
      cases kind : join.kind with
      | inner | left =>
        rw [kind] at asked
        simp only at asked
        split at asked <;> cases asked
        rfl
      | right | full | cross =>
        rw [kind] at asked
        cases asked
        rfl
    rw [Program.evaluate_bind, Program.evaluate_ofExcept] at fetched
    obtain ⟨read, made, searched⟩ := bind_eq_ok.mp fetched
    rw [evaluate_findRows] at searched
    obtain ⟨documents, answered, rfl⟩ := map_eq_ok.mp searched
    obtain ⟨document, inside, rfl⟩ := List.mem_map.mp member
    obtain ⟨stored, there, _, rfl⟩ := exists_of_found answered inside
    rw [(read_eq_ok made).2, whole]
    exact List.mem_map_of_mem there

end Fetched

/-! ### Joins of rearranged rows -/

section Joined

variable {scope : Scope} {join : Join} {joins : List Join} {rows others : List Document} {store : Store}
  {world : World Server}

theorem perm_joinRows (perm : rows.Perm others) (join : Join) (joined : List Document) :
    (joinRows join rows joined).Perm (joinRows join others joined) := by
  rw [joinRows_eq, joinRows_eq, unpaired_congr fun row => perm.mem_iff]
  exact (perm.flatMap_right _).append_right _

/-- **Joins of rearranged rows** fail alike, or give rearranged rows. -/
theorem evaluate_applyJoins_perm (visible : world.state.visible? scope = some store)
    (stored : ∀ join ∈ joins, ∀ document ∈ store.documents join.table,
      Document.hasDistinctKeys document = true)
    (distinct : ∀ row ∈ rows, Document.hasDistinctKeys row = true) (perm : rows.Perm others) :
    ((applyJoins scope joins rows).evaluate store.reply).map Multiset.ofList =
      ((applyJoins scope joins others).evaluate store.reply).map Multiset.ofList := by
  induction joins generalizing rows others with
  | nil => exact congrArg Except.ok (Multiset.coe_eq_coe.mpr perm)
  | cons join rest hypothesis =>
    rw [applyJoins, applyJoins, Program.evaluate_bind, Program.evaluate_bind,
      evaluate_lookupJoined_congr visible (fun row => perm.mem_iff) distinct]
    refine map_bind_congr_right fun joined fetched => ?_
    refine hypothesis (fun other member => stored other (List.mem_cons_of_mem join member)) (fun row member => ?_)
      (perm_joinRows perm join joined)
    refine hasDistinctKeys_of_mem_joinRows distinct (fun other among => ?_) member
    obtain ⟨document, there, rfl⟩ := List.mem_map.mp (subset_tableRows fetched among)
    exact hasDistinctKeys_canonicalDocument (stored join List.mem_cons_self document there)

end Joined

end Polystore
