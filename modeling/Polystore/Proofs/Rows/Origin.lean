/-
**Where the rows of a query come from.**

`Stems` follows a row back to the base row that it shows: joins and loaded relationships add fields of
their own, selected columns rename what is kept, and everything else stays as it is. A base row is a
stored document of the queried table, or the empty row where a right or full join keeps what no
document matches.

* `exists_base_of_select`: every row of a query stems from a base row whose document passes the filter;
* `exists_base_of_get`: so does every row with loaded relationships.
-/

import Polystore.Connection
import Polystore.Proofs.Joins.Merged
import Polystore.Proofs.Memory.StableSort
import Polystore.Proofs.Program.Run

namespace Polystore

open Memory Native

/-- Whether a row differs from another one in nothing but the given fields. -/
def Extends (keys : List String) (base row : Document) : Prop :=
  ∀ key, key ∉ keys → Document.get? key row = Document.get? key base

theorem Extends.refl (keys : List String) (row : Document) : Extends keys row row := fun _ _ => rfl

theorem Extends.trans {first second : List String} {base middle row : Document}
    (former : Extends first base middle) (latter : Extends second middle row) :
    Extends (first ++ second) base row := by
  intro key other
  rw [List.mem_append, not_or] at other
  rw [latter key other.2, former key other.1]

theorem Extends.mono {fewer more : List String} {base row : Document}
    (extended : Extends fewer base row) (subset : fewer ⊆ more) : Extends more base row :=
  fun key other => extended key fun inside => other (subset inside)

theorem extends_insert (key : String) (value : Value) (row : Document) :
    Extends [key] row (Document.insert key value row) := by
  intro other different
  exact Document.get?_insert_of_ne (List.ne_of_not_mem_cons different) value row

/-- A row reduced to what a query selects, if it selects anything. -/
def Native.shown (query : Query) (row : Document) : Document :=
  if !query.distinct.isEmpty then selectedRow (query.distinct.map Column.named) [] row
  else if !query.columns.isEmpty then selectedRow query.columns (query.joins.map (·.target)) row
  else row

/-- The projection that a query leaves to the store. -/
def Native.storeProjection (query : Query) : Option Document :=
  if query.isPostProcessed then none else projection query.columns

/-- A stored document as a read of a query hands it over. -/
def Native.storedRow (query : Query) (document : Document) : Document :=
  ObjectIdentifier.canonicalDocument (projected (storeProjection query) document)

/-- The rows that joins extend: stored documents, and the empty row where a join keeps joined rows
that no document matches. -/
inductive Native.Base (query : Query) (stored : Document → Prop) : Document → Prop
  | ofDocument {document : Document} (member : stored document) :
    Base query stored (storedRow query document)
  | unmatched {join : Join} (member : join ∈ query.joins)
    (kept : join.kind.keepsUnmatchedJoined = true) : Base query stored []

/-- The rows that a join makes of a base row. -/
def Native.paired (join : Join) (joined : List Document) (row : Document) : List Document :=
  if join.kind = .cross then joined.map (extended join row) else joinRow join joined row

/-- The rows that a join makes of no base row. -/
def Native.unpaired (join : Join) (rows joined : List Document) : List Document :=
  if join.kind.keepsUnmatchedJoined then (unmatchedJoined join rows joined).map (extended join [])
  else []

/-- **Whether a row shows a base row.** -/
def Native.Stems (query : Query) (base row : Document) : Prop :=
  ∃ joined, Extends (query.joins.map (·.target)) base joined ∧
    Extends (query.loads.map (·.name)) (shown query joined) row

/-! ### What the store finds -/

section Found

variable {filter document : Document} {documents : List Document}

/-- A document that was matched is one of the collection and passes the filter. -/
theorem mem_of_matching {accepted : List Document} (matched : matching filter documents = .ok accepted)
    (member : document ∈ accepted) : document ∈ documents ∧ passes document filter = .ok true := by
  induction documents generalizing accepted with
  | nil =>
    obtain rfl := Except.ok.inj matched
    cases member
  | cons first rest hypothesis =>
    obtain ⟨truth, decided, remaining⟩ := bind_eq_ok.mp matched
    obtain ⟨others, more, whole⟩ := bind_eq_ok.mp remaining
    rw [← Except.ok.inj whole] at member
    cases truth with
    | false =>
      obtain ⟨inside, passed⟩ := hypothesis more member
      exact ⟨List.mem_cons_of_mem _ inside, passed⟩
    | true =>
      rcases List.mem_cons.mp member with rfl | member
      · exact ⟨List.mem_cons_self, decided⟩
      · obtain ⟨inside, passed⟩ := hypothesis more member
        exact ⟨List.mem_cons_of_mem _ inside, passed⟩

theorem mem_sorted {sort : Option Document} :
    document ∈ sorted sort documents ↔ document ∈ documents :=
  (perm_sorted sort documents).mem_iff

/-- What is found is a projection of a document that passes the filter. -/
theorem exists_of_found {read : Read} {rows : List Document} {row : Document}
    (answered : found read documents = .ok rows) (member : row ∈ rows) :
    ∃ document ∈ documents, passes document read.filter = .ok true ∧
      row = projected read.projection document := by
  obtain ⟨accepted, matched, whole⟩ := bind_eq_ok.mp answered
  rw [← Except.ok.inj whole] at member
  obtain ⟨document, inside, rfl⟩ := List.mem_map.mp member
  have remaining : document ∈ (sorted read.sort accepted).drop (read.skip.getD 0) := by
    cases limited : read.limit with
    | none => simpa [limited] using inside
    | some limit => exact List.mem_of_mem_take (by simpa [limited] using inside)
  obtain ⟨stored, passed⟩ := mem_of_matching matched (mem_sorted.mp (List.mem_of_mem_drop remaining))
  exact ⟨document, stored, passed, rfl⟩

end Found

/-! ### What is done with the rows -/

section Rows

variable {query : Query} {rows : List Document} {row : Document}

/-- A row that a join makes of a base row extends it. -/
theorem extends_of_mem_paired {join : Join} {base : Document} {joined : List Document}
    (member : row ∈ paired join joined base) : Extends [join.target] base row := by
  unfold paired at member
  split at member
  · obtain ⟨other, _, rfl⟩ := List.mem_map.mp member
    exact extends_insert _ _ _
  · unfold joinRow at member
    simp only at member
    split at member
    · split at member
      · obtain rfl := List.mem_singleton.mp member
        exact extends_insert _ _ _
      · cases member
    · obtain ⟨other, _, rfl⟩ := List.mem_map.mp member
      exact extends_insert _ _ _

/-- A row that a join makes of no base row extends the empty one. -/
theorem extends_of_mem_unpaired {join : Join} {joined : List Document}
    (member : row ∈ unpaired join rows joined) :
    join.kind.keepsUnmatchedJoined = true ∧ Extends [join.target] [] row := by
  unfold unpaired at member
  split at member
  · rename_i kept
    obtain ⟨other, _, rfl⟩ := List.mem_map.mp member
    exact ⟨kept, extends_insert _ _ _⟩
  · cases member

/-- **The rows of a join**: those of each base row in turn, and those of none. -/
theorem joinRows_eq (join : Join) (rows joined : List Document) :
    joinRows join rows joined = rows.flatMap (paired join joined) ++ unpaired join rows joined := by
  by_cases crossed : join.kind = .cross
  · have pairs : paired join joined = fun row => joined.map (extended join row) :=
      funext fun row => if_pos crossed
    unfold joinRows unpaired
    rw [if_pos crossed, pairs, crossed]
    exact (List.append_nil _).symm
  · have pairs : paired join joined = joinRow join joined := funext fun row => if_neg crossed
    rw [joinRows_eq_flatMap crossed, pairs]
    rfl

/-- A joined row extends the row that it was made of, or none where the join keeps what has no match. -/
theorem exists_of_joinRows {join : Join} {joined : List Document}
    (member : row ∈ joinRows join rows joined) :
    (∃ base ∈ rows, Extends [join.target] base row) ∨
      (join.kind.keepsUnmatchedJoined = true ∧ Extends [join.target] [] row) := by
  rw [joinRows_eq, List.mem_append] at member
  refine member.imp (fun matched => ?_) extends_of_mem_unpaired
  obtain ⟨base, inside, made⟩ := List.mem_flatMap.mp matched
  exact ⟨base, inside, extends_of_mem_paired made⟩

/-- Joins one after the other only add their targets. -/
theorem exists_of_applyJoins {σ : Type} {scope : Scope} {driver : Driver interface σ} {joins : List Join}
    {world last : World σ} {results : List Document}
    (ran : (applyJoins scope joins rows).run driver world = (.finished (.ok results), last))
    (member : row ∈ results) :
    (∃ base ∈ rows, Extends (joins.map (·.target)) base row) ∨
      ((∃ join ∈ joins, join.kind.keepsUnmatchedJoined = true) ∧
        Extends (joins.map (·.target)) [] row) := by
  induction joins generalizing rows world with
  | nil =>
    cases ran
    exact .inl ⟨row, member, .refl _ _⟩
  | cons join rest hypothesis =>
    obtain ⟨joined, middle, _, remaining⟩ := Program.run_bind_ok.mp ran
    rcases hypothesis remaining with ⟨between, inside, later⟩ | ⟨⟨other, among, kept⟩, later⟩
    · rcases exists_of_joinRows inside with ⟨base, found, earlier⟩ | ⟨kept, earlier⟩
      · exact .inl ⟨base, found, earlier.trans later⟩
      · exact .inr ⟨⟨join, List.mem_cons_self, kept⟩, earlier.trans later⟩
    · refine .inr ⟨⟨other, List.mem_cons_of_mem _ among, kept⟩, later.mono ?_⟩
      exact List.subset_cons_self _ _

theorem mem_of_firstPerKeyFrom {columns : List String} {seen : List (List Value)}
    (member : row ∈ firstPerKeyFrom columns seen rows) : row ∈ rows := by
  induction rows generalizing seen with
  | nil => exact member
  | cons first rest hypothesis =>
    unfold firstPerKeyFrom at member
    simp only at member
    split at member
    · exact List.mem_cons_of_mem _ (hypothesis member)
    · rcases List.mem_cons.mp member with rfl | member
      · exact List.mem_cons_self
      · exact List.mem_cons_of_mem _ (hypothesis member)

/-- What is left after grouping, selection and the window are rows as the query shows them. -/
theorem exists_of_windowed
    (member : row ∈ windowed query (selected query (grouped query rows))) :
    ∃ joined ∈ rows, row = shown query joined := by
  have kept : row ∈ selected query (grouped query rows) := by
    unfold windowed at member
    split at member
    · simp only at member
      split at member
      · exact List.mem_of_mem_drop (List.mem_of_mem_take member)
      · exact List.mem_of_mem_drop member
    · exact member
  have inGroup : ∀ {joined : Document}, joined ∈ grouped query rows → joined ∈ rows := by
    intro joined inside
    unfold grouped at inside
    split at inside
    · exact inside
    · exact mem_of_firstPerKeyFrom inside
  unfold selected at kept
  unfold shown
  split at kept
  · rename_i distinct
    obtain ⟨joined, inside, rfl⟩ := List.mem_map.mp (mem_of_firstPerKeyFrom kept)
    exact ⟨joined, inGroup inside, by rw [if_pos distinct]⟩
  · rename_i plain
    split at kept
    · rename_i columns
      obtain ⟨joined, inside, rfl⟩ := List.mem_map.mp kept
      exact ⟨joined, inGroup inside, by rw [if_neg plain, if_pos columns]⟩
    · rename_i whole
      exact ⟨row, inGroup kept, by rw [if_neg plain, if_neg whole]⟩

end Rows

/-! ### Rows of queries -/

section Queries

variable {scope : Scope} {query : Query} {table : String} {store : Store} {rows : List Document}
  {row : Document} {world last : World Server}

/-- What a query reads. -/
theorem read_eq_ok {read : Read} (made : Native.read query = .ok read) :
    Native.filter query.clauses = .ok read.filter ∧ read.projection = storeProjection query := by
  unfold Native.read at made
  obtain ⟨_, _, remaining⟩ := bind_eq_ok.mp made
  obtain ⟨filter, filtered, whole⟩ := bind_eq_ok.mp remaining
  rw [← Except.ok.inj whole]
  refine ⟨filtered, ?_⟩
  unfold storeProjection
  cases query.isPostProcessed <;> rfl

/-- **Every row of a query stems from a base row whose document passes the filter.** -/
theorem exists_base_of_select (visible : world.state.visible? scope = some store)
    (bound : query.requireTable = .ok table)
    (ran : (selectRows scope query).run Server.driver world = (.finished (.ok rows), last))
    (member : row ∈ rows) :
    ∃ filter, Native.filter query.clauses = .ok filter ∧
      ∃ base joined,
        Base query
          (fun document => document ∈ store.documents table ∧ passes document filter = .ok true) base ∧
        Extends (query.joins.map (·.target)) base joined ∧ row = shown query joined := by
  unfold selectRows at ran
  obtain ⟨name, first, named, reading⟩ := Program.run_bind_ok.mp ran
  obtain ⟨same, rfl⟩ := Program.run_ofExcept_ok.mp named
  obtain rfl := Except.ok.inj (bound.symm.trans same)
  obtain ⟨read, second, readMade, finding⟩ := Program.run_bind_ok.mp reading
  obtain ⟨made, rfl⟩ := Program.run_ofExcept_ok.mp readMade
  obtain ⟨found, third, searched, joining⟩ := Program.run_bind_ok.mp finding
  obtain ⟨joined, fourth, applied, whole⟩ := Program.run_bind_ok.mp joining
  rw [run_findRows visible] at searched
  obtain ⟨answered, _⟩ := Prod.mk.inj searched
  obtain ⟨documents, answer, rfl⟩ := map_eq_ok.mp (Outcome.finished.inj answered)
  have results : rows = windowed query (selected query (grouped query joined)) := by
    cases whole
    rfl
  rw [results] at member
  obtain ⟨full, inside, shownAs⟩ := exists_of_windowed member
  obtain ⟨filtered, projects⟩ := read_eq_ok made
  refine ⟨read.filter, filtered, ?_⟩
  rcases exists_of_applyJoins applied inside with
    ⟨base, canonical, extended⟩ | ⟨⟨join, among, kept⟩, extended⟩
  · obtain ⟨projection, projectionFound, rfl⟩ := List.mem_map.mp canonical
    obtain ⟨document, stored, passed, rfl⟩ := exists_of_found answer projectionFound
    rw [projects] at extended
    exact ⟨_, full, .ofDocument ⟨stored, passed⟩, extended, shownAs⟩
  · exact ⟨_, full, .unmatched among kept, extended, shownAs⟩

/-- Loaded relationships only add their names. -/
theorem extends_of_loadInto {connection : Connection interface} {loads : List Load} {base : Document}
    (ran : (connection.loadInto loads base).run Server.driver world = (.finished (.ok row), last)) :
    Extends (loads.map (·.name)) base row := by
  induction loads generalizing base world with
  | nil =>
    cases ran
    exact .refl _ _
  | cons load rest hypothesis =>
    obtain ⟨related, middle, _, remaining⟩ := Program.run_bind_ok.mp ran
    exact (extends_insert load.name related base).trans (hypothesis remaining)

theorem exists_of_loadAll {connection : Connection interface} {loads : List Load}
    {results : List Document}
    (ran : (connection.loadAll loads rows).run Server.driver world = (.finished (.ok results), last))
    (member : row ∈ results) : ∃ base ∈ rows, Extends (loads.map (·.name)) base row := by
  induction rows generalizing results world with
  | nil =>
    cases ran
    cases member
  | cons first rest hypothesis =>
    obtain ⟨one, middle, loaded, remaining⟩ := Program.run_bind_ok.mp ran
    obtain ⟨others, next, more, whole⟩ := Program.run_bind_ok.mp remaining
    cases whole
    rcases List.mem_cons.mp member with rfl | member
    · exact ⟨first, List.mem_cons_self, extends_of_loadInto loaded⟩
    · obtain ⟨base, inside, extended⟩ := hypothesis more member
      exact ⟨base, List.mem_cons_of_mem _ inside, extended⟩

/-- **Every row with loaded relationships stems from a base row whose document passes the filter.** -/
theorem exists_base_of_get {validator : Validator} (visible : world.state.visible? scope = some store)
    (bound : query.requireTable = .ok table)
    (ran : ((Connection.mk engine scope validator).get query).run Server.driver world =
      (.finished (.ok rows), last))
    (member : row ∈ rows) :
    ∃ filter, Native.filter query.clauses = .ok filter ∧
      ∃ base, Stems query base row ∧ Base query
        (fun document => document ∈ store.documents table ∧ passes document filter = .ok true) base := by
  unfold Connection.get at ran
  obtain ⟨_, first, named, selecting⟩ := Program.run_bind_ok.mp ran
  obtain ⟨_, rfl⟩ := Program.run_ofExcept_ok.mp named
  obtain ⟨selectedRows, second, chosen, loading⟩ := Program.run_bind_ok.mp selecting
  have origin : ∃ part ∈ selectedRows, Extends (query.loads.map (·.name)) part row := by
    cases empty : query.loads.isEmpty with
    | true =>
      rw [empty, if_pos rfl] at loading
      cases loading
      exact ⟨row, member, .refl _ _⟩
    | false =>
      rw [empty, if_neg Bool.false_ne_true] at loading
      exact exists_of_loadAll loading member
  obtain ⟨part, inside, extended⟩ := origin
  rcases Program.run_orIfInvalidIdentifier_ok chosen with succeeded | nothing
  · obtain ⟨filter, filtered, base, joined, based, joins, rfl⟩ :=
      exists_base_of_select visible bound succeeded inside
    exact ⟨filter, filtered, base, ⟨joined, joins, extended⟩, based⟩
  · rw [nothing] at inside
    cases inside

end Queries

end Polystore
