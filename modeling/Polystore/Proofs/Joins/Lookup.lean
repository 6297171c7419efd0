/-
**The narrowed lookups of joins.**

An inner or left join only fetches the documents whose foreign key is among the keys of the base rows.
The keys are collected by `Value.equals`, the store compares documents with them as filters do, and the
fetched rows are matched by `sameKey`.

* `lookupKeys_cons`: what one base row adds to the keys;
* `run_lookupJoined`: what is fetched;
* `isWanted_of_isMatch`: a document that a base row matches is fetched;
* `joinRows_lookupJoined`: so the rows of the join are those of a join with the whole collection.
-/

import Polystore.Proofs.Rows.Lookup
import Polystore.Proofs.Value.Equality

namespace Polystore

open Memory Native

/-- Whether a key can be compared with the foreign key of a join. -/
def Native.Readable (join : Join) (key : Value) : Prop :=
  join.foreignKey = idField → ∃ native, ObjectIdentifier.nativeValue key = .ok native

/-- Whether a lookup of keys finds a document. -/
def Native.isWanted (foreignKey : String) (keys : List Value) (document : Document) : Bool :=
  keys.any fun key =>
    equalsOperand (Predicate.fieldOf foreignKey document) (Predicate.meant foreignKey key)

/-! ### The keys of base rows -/

section Keys

variable {join : Join} {known : List Value} {row : Document} {others : List Document} {key : Value}

/-- **What one base row adds to the keys**: its own key, if that is readable and not known yet. -/
theorem lookupKeys_cons (known : List Value) (others : List Document)
    (keyed : localKey? join row = some key) :
    (Readable join key ∧ known.any (·.equals key) = false ∧
      lookupKeys join known (row :: others) = lookupKeys join (known ++ [key]) others) ∨
    ((Readable join key → known.any (·.equals key) = true) ∧
      lookupKeys join known (row :: others) = lookupKeys join known others) := by
  rw [lookupKeys, keyed]
  cases present : known.any (·.equals key) with
  | true =>
    refine .inr ⟨fun _ => rfl, ?_⟩
    simp only [present, Bool.or_true, if_true]
  | false =>
    by_cases identifies : join.foreignKey = idField
    · cases read : ObjectIdentifier.nativeValue key with
      | ok native =>
        refine .inl ⟨fun _ => ⟨native, read⟩, rfl, ?_⟩
        simp only [read, present, Bool.and_false, Bool.or_false, Bool.false_eq_true, if_false]
      | error error =>
        refine .inr ⟨fun readable => ?_, ?_⟩
        · obtain ⟨native, given⟩ := readable identifies
          rw [read] at given
          cases given
        · simp only [read, identifies, beq_self_eq_true, Bool.and_true, Bool.true_or, if_true]
    · refine .inl ⟨fun same => absurd same identifies, rfl, ?_⟩
      simp only [beq_eq_false_iff_ne.mpr identifies, present, Bool.false_and, Bool.or_false,
        Bool.false_eq_true, if_false]

theorem subset_lookupKeys : known ⊆ lookupKeys join known others := by
  induction others generalizing known with
  | nil => exact List.Subset.refl known
  | cons row rest hypothesis =>
    cases keyed : localKey? join row with
    | none =>
      rw [lookupKeys, keyed]
      exact hypothesis
    | some key =>
      rcases lookupKeys_cons known rest keyed with ⟨_, _, added⟩ | ⟨_, unchanged⟩
      · rw [added]
        exact List.Subset.trans (List.subset_append_left known [key]) hypothesis
      · rw [unchanged]
        exact hypothesis

/-- Every collected key is the readable key of a base row. -/
theorem exists_row_of_mem_lookupKeys (member : key ∈ lookupKeys join known others) :
    key ∈ known ∨ Readable join key ∧ ∃ row ∈ others, localKey? join row = some key := by
  induction others generalizing known with
  | nil => exact .inl member
  | cons row rest hypothesis =>
    have later {known : List Value} (member : key ∈ lookupKeys join known rest) :
        key ∈ known ∨ Readable join key ∧ ∃ other ∈ row :: rest, localKey? join other = some key := by
      refine (hypothesis member).imp id fun ⟨readable, other, inside, keyed⟩ => ?_
      exact ⟨readable, other, List.mem_cons_of_mem _ inside, keyed⟩
    cases keyed : localKey? join row with
    | none =>
      rw [lookupKeys, keyed] at member
      exact later member
    | some own =>
      rcases lookupKeys_cons known rest keyed with ⟨readable, _, added⟩ | ⟨_, unchanged⟩
      · rw [added] at member
        rcases later member with inside | from_
        · rcases List.mem_append.mp inside with before | new
          · exact .inl before
          · obtain rfl := List.mem_singleton.mp new
            exact .inr ⟨readable, row, List.mem_cons_self, keyed⟩
        · exact .inr from_
      · rw [unchanged] at member
        exact later member

/-- **Every readable key of a base row is collected**, or an equal one is. -/
theorem exists_lookupKey (known : List Value) (inside : row ∈ others)
    (keyed : localKey? join row = some key) (readable : Readable join key) :
    ∃ kept ∈ lookupKeys join known others, kept.equals key = true ∨ kept = key := by
  induction others generalizing known with
  | nil => cases inside
  | cons first rest hypothesis =>
    rcases List.mem_cons.mp inside with rfl | inside
    · rcases lookupKeys_cons known rest keyed with ⟨_, _, added⟩ | ⟨present, unchanged⟩
      · rw [added]
        exact ⟨key, subset_lookupKeys (List.mem_append_right known (List.mem_singleton_self key)),
          .inr rfl⟩
      · obtain ⟨kept, among, equal⟩ := List.any_eq_true.mp (present readable)
        rw [unchanged]
        exact ⟨kept, subset_lookupKeys among, .inl equal⟩
    · cases own : localKey? join first with
      | none =>
        rw [lookupKeys, own]
        exact hypothesis _ inside
      | some other =>
        rcases lookupKeys_cons known rest own with ⟨_, _, added⟩ | ⟨_, unchanged⟩
        · rw [added]
          exact hypothesis _ inside
        · rw [unchanged]
          exact hypothesis _ inside

end Keys

/-! ### Values inside of rows -/

section Inside

variable {document : Document} {value : Value} {key : String}

theorem hasDistinctKeys_of_get? (distinct : Document.hasDistinctKeys document = true)
    (found : Document.get? key document = some value) : value.hasDistinctKeys = true :=
  (Document.hasDistinctKeys_iff.mp distinct).2 _ (Document.mem_of_get? found)

/-- A value that a path leads to repeats no key where the row does not. -/
theorem hasDistinctKeys_of_lookupSegments? {segments : List String}
    (distinct : Document.hasDistinctKeys document = true)
    (found : Document.lookupSegments? segments document = some value) :
    value.hasDistinctKeys = true := by
  induction segments generalizing document with
  | nil => cases found
  | cons key rest hypothesis =>
    rw [Document.lookupSegments?] at found
    split at found
    · rename_i whole direct
      obtain rfl := Option.some.inj found
      exact hasDistinctKeys_of_get? distinct direct
    · split at found
      · cases found
      · split at found
        · rename_i inner nested
          exact hypothesis (hasDistinctKeys_of_get? distinct nested) found
        · cases found

theorem hasDistinctKeys_of_localKey? {join : Join} (distinct : Document.hasDistinctKeys document = true)
    (keyed : localKey? join document = some value) : value.hasDistinctKeys = true :=
  hasDistinctKeys_of_lookupSegments? distinct (Option.eq_some_of_filter_eq_some keyed)

end Inside

/-! ### What is fetched -/

section Fetched

variable {scope : Scope} {join : Join} {rows : List Document} {store : Store} {world : World Server}

/-- The clauses of a lookup ask for its keys. -/
theorem hold_keyLookup (table foreignKey : String) (keys : List Value) (document : Document) :
    Clause.hold (Predicate.meets document) (keyLookup table foreignKey keys).clauses =
      isWanted foreignKey keys document := by
  have single (leaf : Predicate) (grouped : leaf.truth (Predicate.meets document) =
      isWanted foreignKey keys document) :
      Clause.hold (Predicate.meets document) [(.and, leaf)] = isWanted foreignKey keys document := by
    rw [Clause.hold_eq_cut]
    simp [grouped]
  match keys with
  | [] => exact single _ rfl
  | [key] =>
    refine single _ ?_
    show equalsOperand _ _ = [key].any _
    simp
  | first :: second :: rest =>
    refine single _ ?_
    show (false != _) = _
    exact Bool.false_bne _

/-- The lookup of readable keys is free of faults. -/
theorem clean_keyLookup {keys : List Value} (plain : Text.startsWith "$" join.foreignKey = false)
    (readable : ∀ key ∈ keys, Readable join key) :
    ∀ leaf ∈ Clause.leaves (keyLookup join.table join.foreignKey keys).clauses,
      leaf.isRaw = false ∧ leaf.isPlain = true ∧ leaf.readsIdentifiers = true := by
  have identifies : ∀ key ∈ keys, join.foreignKey = idField → Predicate.isIdentifier key = true := by
    intro key member same
    obtain ⟨native, read⟩ := readable key member same
    unfold ObjectIdentifier.nativeValue ObjectIdentifier.parse at read
    cases key with
    | string text =>
      cases written : ObjectId.ofHex? text with
      | none => simp [written, Except.map] at read
      | some identifier => simp [Predicate.isIdentifier, written]
    | objectId identifier => rfl
    | _ => cases read
  have each (operands : Predicate) (column : operands.column? = some join.foreignKey)
      (values : operands.operands = keys) : operands.isPlain = true ∧
        operands.readsIdentifiers = true := by
    refine ⟨by simp [Predicate.isPlain, column, plain], ?_⟩
    rw [Predicate.readsIdentifiers, column, values, Bool.or_eq_true, bne_iff_ne, List.all_eq_true]
    by_cases same : join.foreignKey = idField
    · exact .inr fun key member => identifies key member same
    · exact .inl fun whole => same (Option.some.inj whole)
  intro leaf member
  cases keys with
  | nil =>
    obtain rfl := List.mem_singleton.mp member
    exact ⟨rfl, each _ rfl rfl⟩
  | cons key others =>
    cases others with
    | nil =>
      obtain rfl := List.mem_singleton.mp member
      exact ⟨rfl, each _ rfl rfl⟩
    | cons second rest =>
      obtain rfl := List.mem_singleton.mp member
      exact ⟨rfl, each _ rfl rfl⟩

/-- **What an inner or left join fetches**: the documents that its keys ask for, as rows. -/
theorem run_lookupJoined (visible : world.state.visible? scope = some store)
    (narrow : join.kind = .inner ∨ join.kind = .left) (named : join.table ≠ "")
    (plain : Text.startsWith "$" join.foreignKey = false) :
    (lookupJoined scope join rows).run Server.driver world =
      (.finished (.ok (((store.documents join.table).filter
        (isWanted join.foreignKey (lookupKeys join [] rows))).map
          ObjectIdentifier.canonicalDocument)), world) := by
  have asked : joinQuery? join rows =
      if (lookupKeys join [] rows).isEmpty then none
      else some (keyLookup join.table join.foreignKey (lookupKeys join [] rows)) := by
    unfold joinQuery?
    rcases narrow with kind | kind <;> rw [kind]
  have readable : ∀ key ∈ lookupKeys join [] rows, Readable join key := by
    intro key member
    rcases exists_row_of_mem_lookupKeys member with before | ⟨readable, _⟩
    · cases before
    · exact readable
  rw [lookupJoined, asked]
  generalize lookupKeys join [] rows = keys at readable ⊢
  cases keys with
  | nil =>
    have unwanted : (store.documents join.table).filter (isWanted join.foreignKey []) = [] :=
      List.filter_eq_nil_iff.mpr fun _ _ => Bool.false_ne_true
    rw [unwanted]
    rfl
  | cons first rest =>
    obtain ⟨filter, made, decided⟩ := exists_filter_decides (clean_keyLookup plain readable)
    have bound : (keyLookup join.table join.foreignKey (first :: rest)).requireTable =
        .ok join.table := if_neg named
    have unshaped : (keyLookup join.table join.foreignKey (first :: rest)).isUnshaped = true := rfl
    rw [← funext (hold_keyLookup join.table join.foreignKey (first :: rest))]
    exact run_readRows visible bound unshaped made fun document _ => decided document

end Fetched

/-! ### What is matched -/

/-- A key that is the same as a text is that text. -/
theorem eq_of_sameKey_string {key : Value} {text : String}
    (same : sameKey key (.string text) = true) : key = .string text := by
  cases key <;> simp only [sameKey, asNumber?, Value.equals, Bool.false_eq_true] at same
  rw [eq_of_beq same]

theorem nativeValue_hex (identifier : ObjectId) :
    ObjectIdentifier.nativeValue (.string identifier.hex) = .ok (.objectId identifier) := by
  rw [ObjectIdentifier.nativeValue, ObjectIdentifier.parse, ObjectId.ofHex?_hex]
  rfl

/-- The text of an identifier stands for it. -/
theorem meant_hex (identifier : ObjectId) :
    Predicate.meant idField (.string identifier.hex) = .objectId identifier := by
  rw [Predicate.meant, if_pos rfl, ObjectId.ofHex?_hex]
  rfl

section Matched

variable {join : Join} {rows joined others : List Document} {row document : Document}

/-- **A document that a base row matches is fetched.** -/
theorem isWanted_of_isMatch (undotted : Text.hasChar '.' join.foreignKey = false)
    (identified : join.foreignKey = idField →
      ∃ identifier, Document.get? ObjectIdentifier.nativeField document = some (.objectId identifier))
    (distinct : ∀ row ∈ rows, Document.hasDistinctKeys row = true) (inside : row ∈ rows)
    (matched : isMatch join row (ObjectIdentifier.canonicalDocument document) = true) :
    isWanted join.foreignKey (lookupKeys join [] rows) document = true := by
  unfold isMatch at matched
  cases keyed : localKey? join row with
  | none =>
    rw [keyed] at matched
    cases matched
  | some key =>
    cases shown : Document.get? join.foreignKey (ObjectIdentifier.canonicalDocument document) with
    | none =>
      rw [keyed, shown] at matched
      cases matched
    | some foreign =>
      rw [keyed, shown] at matched
      have same : sameKey key foreign = true := matched
      -- Whatever key stands for the one of the row is the same as the foreign key.
      have found (readable : Readable join key) : ∃ kept ∈ lookupKeys join [] rows,
          sameKey foreign kept = true := by
        obtain ⟨kept, member, stands⟩ := exists_lookupKey [] inside keyed readable
        refine ⟨kept, member, sameKey_symm ?_ ?_⟩
        · rcases exists_row_of_mem_lookupKeys member with before | ⟨_, other, among, own⟩
          · cases before
          · exact hasDistinctKeys_of_localKey? (distinct other among) own
        · rcases stands with equal | rfl
          · exact sameKey_of_equals equal same
          · exact same
      refine List.any_eq_true.mpr ?_
      by_cases identifies : join.foreignKey = idField
      · obtain ⟨identifier, stored⟩ := identified identifies
        rw [identifies, ObjectIdentifier.get?_id_canonicalDocument stored] at shown
        obtain rfl := Option.some.inj shown
        -- Both the key of the row and the one that stands for it are the text of the identifier.
        obtain rfl := eq_of_sameKey_string same
        obtain ⟨kept, member, stands⟩ := found fun _ =>
          ⟨.objectId identifier, nativeValue_hex identifier⟩
        obtain rfl := eq_of_sameKey_string (sameKey_symm rfl stands)
        refine ⟨_, member, ?_⟩
        rw [identifies, Predicate.fieldOf, if_pos rfl, Document.atPath?_eq_get? rfl, stored,
          meant_hex identifier]
        exact beq_self_eq_true identifier
      · obtain ⟨kept, member, stands⟩ := found fun same => absurd same identifies
        refine ⟨kept, member, ?_⟩
        have other : join.foreignKey ≠ ObjectIdentifier.nativeField := by
          intro native
          rw [native, ObjectIdentifier.get?_native_canonicalDocument] at shown
          cases shown
        rw [ObjectIdentifier.get?_canonicalDocument_of_ne identifies other] at shown
        rw [Predicate.fieldOf, if_neg identifies, Document.atPath?_eq_get? undotted, shown,
          Predicate.meant_of_ne identifies]
        exact equalsOperand_of_sameKey stands

/-- An inner or left join only sees the joined rows that match a base row. -/
theorem joinRows_congr (narrow : join.kind = .inner ∨ join.kind = .left)
    (partners : ∀ row ∈ rows, joined.filter (isMatch join row) = others.filter (isMatch join row)) :
    joinRows join rows joined = joinRows join rows others := by
  have each : rows.flatMap (joinRow join joined) = rows.flatMap (joinRow join others) := by
    refine List.flatMap_congr fun row inside => ?_
    rw [joinRow, joinRow, partners row inside]
  have paired : join.kind ≠ .cross := by rcases narrow with kind | kind <;> simp [kind]
  rw [joinRows_eq_flatMap paired, joinRows_eq_flatMap paired, each]
  rcases narrow with kind | kind <;> rw [kind] <;> rfl

/-- A join with the documents that its keys ask for is one with all documents. -/
theorem joinRows_filter_isWanted {documents : List Document}
    (narrow : join.kind = .inner ∨ join.kind = .left)
    (undotted : Text.hasChar '.' join.foreignKey = false)
    (identified : join.foreignKey = idField → ∀ document ∈ documents, ∃ identifier,
      Document.get? ObjectIdentifier.nativeField document = some (.objectId identifier))
    (distinct : ∀ row ∈ rows, Document.hasDistinctKeys row = true) :
    joinRows join rows ((documents.filter
        (isWanted join.foreignKey (lookupKeys join [] rows))).map ObjectIdentifier.canonicalDocument) =
      joinRows join rows (documents.map ObjectIdentifier.canonicalDocument) := by
  refine joinRows_congr narrow fun row inside => ?_
  rw [List.filter_map, List.filter_map, List.filter_filter]
  congr 1
  refine List.filter_congr fun document member => ?_
  cases matched : isMatch join row (ObjectIdentifier.canonicalDocument document) with
  | false => simp [matched]
  | true =>
    have wanted := isWanted_of_isMatch undotted (fun identifies => identified identifies document member)
      distinct inside matched
    simp [matched, wanted]

end Matched

/-- **The narrowed lookup loses nothing**: an inner or left join of the fetched rows gives the rows of
the join with the whole collection. -/
theorem joinRows_lookupJoined {scope : Scope} {join : Join} {rows : List Document} {store : Store}
    {world : World Server} (visible : world.state.visible? scope = some store)
    (narrow : join.kind = .inner ∨ join.kind = .left) (named : join.table ≠ "")
    (undotted : Text.hasChar '.' join.foreignKey = false)
    (plain : Text.startsWith "$" join.foreignKey = false)
    (identified : ∀ document ∈ store.documents join.table, ∃ identifier,
      Document.get? ObjectIdentifier.nativeField document = some (.objectId identifier))
    (distinct : ∀ row ∈ rows, Document.hasDistinctKeys row = true) :
    ∃ joined,
      (lookupJoined scope join rows).run Server.driver world = (.finished (.ok joined), world) ∧
        joinRows join rows joined =
          joinRows join rows
            ((store.documents join.table).map ObjectIdentifier.canonicalDocument) := by
  exact ⟨_, run_lookupJoined visible narrow named plain,
    joinRows_filter_isWanted narrow undotted (fun _ => identified) distinct⟩

/-- Pets whose owner is a number, and a document whose fields stand in another order. -/
def pets : Store :=
  [("pets",
    [[("_id", .objectId ⟨1⟩), ("owner", .int64 7)],
      [("_id", .objectId ⟨2⟩), ("owner", .string "7")],
      [("_id", .objectId ⟨3⟩), ("owner", .document [("b", .null), ("a", .int32 1)])]])]

/-- Owners whose keys are numbers of two kinds, a document, and null. -/
def owners : List Document :=
  [[("chip", .document [("no", .int32 7)])],
    [("chip", .document [("no", .int64 7)])],
    [("chip", .document [("no", .document [("a", .int32 1), ("b", .null)])])],
    [("chip", .document [("no", .null)])]]

def ownedPets : Join := ⟨.left, "pets", "chip.no", "owner", "pet"⟩

/-- Numbers meet across their kinds, documents across the order of their fields. -/
theorem joinRows_ownedPets :
    ∃ joined,
      (lookupJoined .connection ownedPets owners).run Server.driver ⟨⟨0, 0⟩, ⟨pets, none, 0⟩⟩ =
        (.finished (.ok joined), ⟨⟨0, 0⟩, ⟨pets, none, 0⟩⟩) ∧
      (joinRows ownedPets owners joined).map (Document.get? "pet") =
        [some (.document [("id", .string "000000000000000000000001"), ("owner", .int64 7)]),
          some (.document [("id", .string "000000000000000000000001"), ("owner", .int64 7)]),
          some (.document [("id", .string "000000000000000000000003"),
            ("owner", .document [("b", .null), ("a", .int32 1)])]),
          some .null] := by
  have identified : ∀ document ∈ Store.documents "pets" pets, ∃ identifier,
      Document.get? ObjectIdentifier.nativeField document = some (.objectId identifier) := by
    intro document member
    change document ∈ [_, _, _] at member
    simp only [List.mem_cons, List.not_mem_nil, or_false] at member
    rcases member with rfl | rfl | rfl <;> exact ⟨_, rfl⟩
  have distinct : ∀ row ∈ owners, Document.hasDistinctKeys row = true := by decide +kernel
  obtain ⟨joined, ran, same⟩ :=
    @joinRows_lookupJoined .connection ownedPets owners pets ⟨⟨0, 0⟩, ⟨pets, none, 0⟩⟩ rfl (.inr rfl)
      (by decide) (by decide) (by decide) identified distinct
  refine ⟨joined, ran, ?_⟩
  rw [same]
  rfl

end Polystore
