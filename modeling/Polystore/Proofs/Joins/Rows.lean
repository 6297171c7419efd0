/-
**The rows of several joins.**

`joinedRows` joins with whole collections, one after the other. What the joins make of a base row does
not depend on the other base rows (`joinedRow`); the rows that stem from no base row (`strays`) only
depend on which base rows there are.

* `joinedRows_eq`: the joined rows are those of each base row in turn, and the strays behind them;
* `run_applyJoins`: a document store gives the joined rows, whatever its lookups leave out.
-/

import Polystore.Proofs.Joins.Lookup

namespace Polystore

open Memory Native

namespace Native

/-- All documents of a collection, as rows. -/
def tableRows (store : Store) (table : String) : List Document :=
  (store.documents table).map ObjectIdentifier.canonicalDocument

/-- **The rows of joins with whole collections**, one after the other. -/
def joinedRows (store : Store) : List Join → List Document → List Document
  | [], rows => rows
  | join :: rest, rows => joinedRows store rest (joinRows join rows (tableRows store join.table))

/-- What joins make of one row. -/
def joinedRow (store : Store) : List Join → Document → List Document
  | [], row => [row]
  | join :: rest, row =>
    (paired join (tableRows store join.table) row).flatMap (joinedRow store rest)

/-- The rows of joins that stem from no base row. -/
def strays (store : Store) : List Join → List Document → List Document
  | [], _ => []
  | join :: rest, rows =>
    let joined := tableRows store join.table
    (unpaired join rows joined).flatMap (joinedRow store rest)
      ++ strays store rest (joinRows join rows joined)

end Native

/-! ### The rows of each base row, and the others -/

section Joined

variable {store : Store} {joins : List Join} {rows others : List Document} {row base : Document}

/-- **The joined rows are those of each base row in turn, and the strays behind them.** -/
theorem joinedRows_eq (store : Store) (joins : List Join) (rows : List Document) :
    joinedRows store joins rows =
      rows.flatMap (joinedRow store joins) ++ strays store joins rows := by
  induction joins generalizing rows with
  | nil => simp [joinedRows, joinedRow, strays]
  | cons join rest hypothesis =>
    have each : joinedRow store (join :: rest) = fun row =>
        (paired join (tableRows store join.table) row).flatMap (joinedRow store rest) := rfl
    rw [joinedRows, hypothesis, each, strays]
    conv_lhs => rw [joinRows_eq, List.flatMap_append, List.flatMap_assoc]
    simp only [List.append_assoc, ← joinRows_eq]

/-- What is not matched depends only on which rows there are. -/
theorem unpaired_congr {join : Join} {joined : List Document} (same : ∀ row, row ∈ rows ↔ row ∈ others) :
    unpaired join rows joined = unpaired join others joined := by
  have matched : ∀ other, rows.any (fun row => isMatch join row other) =
      others.any fun row => isMatch join row other := by
    intro other
    rw [Bool.eq_iff_iff, List.any_eq_true, List.any_eq_true]
    exact exists_congr fun row => and_congr_left' (same row)
  unfold unpaired unmatchedJoined
  simp only [matched]

/-- **Which rows are strays depends only on which base rows there are**, not on their order. -/
theorem strays_congr (same : ∀ row, row ∈ rows ↔ row ∈ others) :
    strays store joins rows = strays store joins others := by
  induction joins generalizing rows others with
  | nil => rfl
  | cons join rest hypothesis =>
    have lone : unpaired join rows (tableRows store join.table) =
        unpaired join others (tableRows store join.table) := unpaired_congr same
    have next : ∀ row, row ∈ joinRows join rows (tableRows store join.table) ↔
        row ∈ joinRows join others (tableRows store join.table) := by
      intro row
      rw [joinRows_eq, joinRows_eq, lone, List.mem_append, List.mem_append, List.mem_flatMap,
        List.mem_flatMap]
      exact or_congr_left (exists_congr fun base => and_congr_left' (same base))
    rw [strays, strays, lone, hypothesis next]

/-- Without joins that keep what has no match there are no strays. -/
theorem strays_eq_nil (dropped : ∀ join ∈ joins, join.kind.keepsUnmatchedJoined = false) :
    strays store joins rows = [] := by
  induction joins generalizing rows with
  | nil => rfl
  | cons join rest hypothesis =>
    have none (joined : List Document) : unpaired join rows joined = [] := by
      unfold unpaired
      rw [dropped join List.mem_cons_self]
      rfl
    rw [strays, none, hypothesis fun other member => dropped other (List.mem_cons_of_mem join member)]
    rfl

theorem extends_of_mem_joinedRow (member : row ∈ joinedRow store joins base) :
    Extends (joins.map (·.target)) base row := by
  induction joins generalizing base with
  | nil =>
    obtain rfl := List.mem_singleton.mp member
    exact .refl _ _
  | cons join rest hypothesis =>
    obtain ⟨middle, made, later⟩ := List.mem_flatMap.mp member
    exact (extends_of_mem_paired made).trans (hypothesis later)

/-- A stray shows nothing but joined rows. -/
theorem extends_of_mem_strays (member : row ∈ strays store joins rows) :
    Extends (joins.map (·.target)) [] row := by
  induction joins generalizing rows with
  | nil => cases member
  | cons join rest hypothesis =>
    rcases List.mem_append.mp member with now | later
    · obtain ⟨middle, made, extended⟩ := List.mem_flatMap.mp now
      exact (extends_of_mem_unpaired made).2.trans (extends_of_mem_joinedRow extended)
    · exact (hypothesis later).mono (List.subset_cons_self _ _)

end Joined

/-! ### Distinct keys of joined rows -/

section Distinct

variable {row : Document} {rows joined : List Document} {join : Join} {value : Value} {key : String}

theorem hasDistinctKeys_insert (distinct : Document.hasDistinctKeys row = true)
    (inner : value.hasDistinctKeys = true) :
    Document.hasDistinctKeys (Document.insert key value row) = true := by
  obtain ⟨keys, values⟩ := Document.hasDistinctKeys_iff.mp distinct
  refine Document.hasDistinctKeys_iff.mpr ⟨Document.nodup_keys_insert keys _ _, fun field member => ?_⟩
  rcases Document.mem_of_mem_insert member with rfl | before
  · exact inner
  · exact values field before

theorem hasDistinctKeys_canonicalDocument (distinct : Document.hasDistinctKeys row = true) :
    Document.hasDistinctKeys (ObjectIdentifier.canonicalDocument row) = true := by
  unfold ObjectIdentifier.canonicalDocument
  split
  · rename_i native identified
    obtain ⟨keys, values⟩ := Document.hasDistinctKeys_iff.mp distinct
    have kept : List.Sublist (Document.erase idField (Document.erase ObjectIdentifier.nativeField row)) row :=
      (List.filter_sublist).trans List.filter_sublist
    refine Document.hasDistinctKeys_iff.mpr ⟨List.nodup_cons.mpr ⟨fun member => ?_, ?_⟩, ?_⟩
    · obtain ⟨found, read⟩ := Document.exists_get?_of_mem_keys member
      rw [Document.get?_erase_self] at read
      cases read
    · exact keys.sublist (kept.map Prod.fst)
    · rw [List.forall_mem_cons]
      refine ⟨?_, fun field member => values field (kept.subset member)⟩
      cases native <;> rfl
  · exact distinct

/-- Joins repeat no key where the joined rows repeat none. -/
theorem hasDistinctKeys_of_mem_joinRows (distinct : ∀ row ∈ rows, Document.hasDistinctKeys row = true)
    (inner : ∀ other ∈ joined, Document.hasDistinctKeys other = true)
    (member : row ∈ joinRows join rows joined) : Document.hasDistinctKeys row = true := by
  have extension {base other : Document} (first : Document.hasDistinctKeys base = true)
      (second : other ∈ joined) : Document.hasDistinctKeys (extended join base other) = true :=
    hasDistinctKeys_insert first (inner other second)
  rw [joinRows_eq, List.mem_append] at member
  rcases member with matched | unmatched
  · obtain ⟨base, inside, made⟩ := List.mem_flatMap.mp matched
    unfold paired at made
    split at made
    · obtain ⟨other, among, rfl⟩ := List.mem_map.mp made
      exact extension (distinct base inside) among
    · unfold joinRow at made
      simp only at made
      split at made
      · split at made
        · obtain rfl := List.mem_singleton.mp made
          exact hasDistinctKeys_insert (distinct base inside) rfl
        · cases made
      · obtain ⟨other, among, rfl⟩ := List.mem_map.mp made
        exact extension (distinct base inside) (List.mem_of_mem_filter among)
  · unfold unpaired at unmatched
    split at unmatched
    · obtain ⟨other, among, rfl⟩ := List.mem_map.mp unmatched
      exact extension rfl (List.mem_of_mem_filter among)
    · cases unmatched

end Distinct

/-! ### What a document store joins -/

/-- **What joins ask of their collections**: they are named, and no document repeats a key. The foreign
key of an inner or left join, which is looked up, is the name of a field; if it names the identifier,
the documents have one. -/
structure Native.SoundJoins (store : Store) (joins : List Join) : Prop where
  named : ∀ join ∈ joins, join.table ≠ ""
  distinct : ∀ join ∈ joins, ∀ document ∈ store.documents join.table,
    Document.hasDistinctKeys document = true
  readable : ∀ join ∈ joins, join.kind = .inner ∨ join.kind = .left →
    Text.hasChar '.' join.foreignKey = false ∧ Text.startsWith "$" join.foreignKey = false
  identified : ∀ join ∈ joins, join.kind = .inner ∨ join.kind = .left → join.foreignKey = idField →
    ∀ document ∈ store.documents join.table, ∃ identifier,
      Document.get? ObjectIdentifier.nativeField document = some (.objectId identifier)

section Applied

variable {scope : Scope} {store : Store} {join : Join} {joins : List Join} {rows : List Document}
  {world : World Server}

theorem Native.SoundJoins.tail (sound : SoundJoins store (join :: joins)) : SoundJoins store joins where
  named other member := sound.named other (List.mem_cons_of_mem join member)
  distinct other member := sound.distinct other (List.mem_cons_of_mem join member)
  readable other member := sound.readable other (List.mem_cons_of_mem join member)
  identified other member := sound.identified other (List.mem_cons_of_mem join member)

/-- A right, full or cross join fetches the whole collection. -/
theorem run_lookupJoined_whole (visible : world.state.visible? scope = some store)
    (wide : ¬ (join.kind = .inner ∨ join.kind = .left)) (named : join.table ≠ "") :
    (lookupJoined scope join rows).run Server.driver world =
      (.finished (.ok (tableRows store join.table)), world) := by
  have asked : joinQuery? join rows = some (Query.ofTable join.table) := by
    unfold joinQuery?
    cases kind : join.kind with
    | inner => exact absurd (.inl kind) wide
    | left => exact absurd (.inr kind) wide
    | right | full | cross => rfl
  have bound : (Query.ofTable join.table).requireTable = .ok join.table := if_neg named
  have all : listed (Query.ofTable join.table) (fun _ => true) (store.documents join.table) =
      store.documents join.table := List.filter_true _
  rw [lookupJoined, asked, tableRows, ← all]
  exact run_readRows visible bound rfl rfl fun _ _ => rfl

/-- **A document store gives the joined rows**, whatever its lookups leave out. -/
theorem run_applyJoins (visible : world.state.visible? scope = some store)
    (sound : SoundJoins store joins) (distinct : ∀ row ∈ rows, Document.hasDistinctKeys row = true) :
    (applyJoins scope joins rows).run Server.driver world =
      (.finished (.ok (joinedRows store joins rows)), world) := by
  induction joins generalizing rows with
  | nil => rfl
  | cons join rest hypothesis =>
    have fetched : ∃ joined,
        (lookupJoined scope join rows).run Server.driver world = (.finished (.ok joined), world) ∧
          joinRows join rows joined = joinRows join rows (tableRows store join.table) := by
      by_cases narrow : join.kind = .inner ∨ join.kind = .left
      · obtain ⟨undotted, plain⟩ := sound.readable join List.mem_cons_self narrow
        exact ⟨_, run_lookupJoined visible narrow (sound.named join List.mem_cons_self) plain,
          joinRows_filter_isWanted narrow undotted
            (sound.identified join List.mem_cons_self narrow) distinct⟩
      · exact ⟨_, run_lookupJoined_whole visible narrow (sound.named join List.mem_cons_self), rfl⟩
    obtain ⟨joined, ran, same⟩ := fetched
    rw [applyJoins, Program.run_bind_of_ok ran, same]
    refine hypothesis sound.tail fun row member => ?_
    refine hasDistinctKeys_of_mem_joinRows distinct (fun other among => ?_) member
    obtain ⟨document, stored, rfl⟩ := List.mem_map.mp among
    exact hasDistinctKeys_canonicalDocument (sound.distinct join List.mem_cons_self document stored)

end Applied

end Polystore
