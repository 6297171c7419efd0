/-
**Joined rows and related rows.**

Relationships and joins find documents by the same lookup, so as filters compare them. A relationship
gives all that it finds; a join compares the keys of what it finds once more, by `sameKey`, and in rows
where identifiers are texts.

* `run_hasMany`, `run_belongsTo`: what a relationship gives;
* `filter_isMatch_related`: what a join gives is the part of it that `isMatch` accepts;
* `isMatch_of_isWanted`: keys on which filters and joins do not differ;
* `placed_eq_related_iff`: when a join and a relationship give the same rows.
-/

import Polystore.Proofs.Clauses.Unreadable
import Polystore.Proofs.Joins.Lookup
import Polystore.Proofs.Memory.Assigned

namespace Polystore

open Memory Native

/-- Whether a value is neither composed of others nor a symbol. -/
def Value.isSimple : Value → Bool
  | .array _ | .document _ | .javaScriptWithScope _ _ | .symbol _ => false
  | _ => true

/-- What the rows of a join hold under its target. -/
def Native.placed (join : Join) (rows : List Document) : List Value :=
  rows.filterMap (Document.get? join.target)

/-- Rows within a limit. -/
def Native.within (limit : Option Nat) (rows : List Document) : List Document :=
  match limit with
  | some most => rows.take most
  | none => rows

/-- The rows whose key is the one of a base row, as filters compare them. -/
def Native.related (join : Join) (documents : List Document) (row : Document) : List Document :=
  match localKey? join row with
  | some key =>
    (documents.filter (isWanted join.foreignKey [key])).map ObjectIdentifier.canonicalDocument
  | none => []

/-- **Keys that filters and joins compare alike**: simple ones with simple ones, and identifiers by
their texts in small letters. -/
structure Native.Undisputed (join : Join) (documents : List Document) (key : Value) : Prop where
  shown : join.foreignKey ≠ ObjectIdentifier.nativeField
  identifier : join.foreignKey = idField → ∃ identifier : ObjectId, key = .string identifier.hex
  simple : join.foreignKey ≠ idField → key.isSimple = true ∧
    ∀ document ∈ documents, ∀ value, Document.get? join.foreignKey document = some value →
      value.isSimple = true

section Keys

variable {join : Join} {row : Document} {key : Value}

/-- A key without a dot is looked up the same for a join and for a relationship. -/
theorem localKey?_eq_present? (undotted : Text.hasChar '.' join.localKey = false) (row : Document) :
    localKey? join row = Document.present? join.localKey row := by
  rw [localKey?, Document.present?, Document.lookup?_eq_get? undotted]

theorem isNullish_of_localKey? (keyed : localKey? join row = some key) : key.isNullish = false := by
  have kept := (Option.filter_eq_some_iff.mp keyed).2
  rwa [Bool.not_eq_true'] at kept

/-- A key that names no identifier is compared with none. -/
theorem isIdentifier_of_not_readable (present : key.isNullish = false)
    (unreadable : ¬ Readable join key) :
    join.foreignKey = idField ∧ Predicate.isIdentifier key = false := by
  refine ⟨by_contra fun other => unreadable fun same => absurd same other, ?_⟩
  refine Bool.eq_false_iff.mpr fun identifies => unreadable fun _ => ?_
  cases key with
  | string text =>
    obtain ⟨identifier, read⟩ := Option.isSome_iff_exists.mp identifies
    refine ⟨.objectId identifier, ?_⟩
    rw [ObjectIdentifier.nativeValue, ObjectIdentifier.parse, read]
    rfl
  | objectId identifier => exact ⟨_, rfl⟩
  | null => cases present
  | _ => cases identifies

/-- A key that names no identifier equals none. -/
theorem isWanted_of_not_readable {document : Document} (assigned : document.IsAssigned)
    (present : key.isNullish = false) (unreadable : ¬ Readable join key) :
    isWanted join.foreignKey [key] document = false := by
  obtain ⟨identifies, unfit⟩ := isIdentifier_of_not_readable present unreadable
  obtain ⟨identifier, stored⟩ := assigned
  have meant : Predicate.meant idField key = key := by
    cases key with
    | string text =>
      have unread : ObjectId.ofHex? text = none := by simpa [Predicate.isIdentifier] using unfit
      rw [Predicate.meant, if_pos rfl, unread]
      rfl
    | _ => rfl
  rw [isWanted, List.any_cons, List.any_nil, Bool.or_false, identifies, meant, Predicate.fieldOf,
    if_pos rfl, Document.atPath?_eq_get? rfl, stored]
  cases key with
  | null => cases present
  | undefined => cases present
  | objectId other => cases unfit
  | _ => rfl

end Keys

/-! ### What relationships give -/

section Relations

variable {scope : Scope} {join : Join} {row : Document} {key : Value} {store : Store}
  {world : World Server}

/-- **What a lookup of one key selects**, within its limit. -/
theorem run_select_keyLookup (visible : world.state.visible? scope = some store)
    (named : join.table ≠ "") (plain : Text.startsWith "$" join.foreignKey = false)
    (assigned : ∀ document ∈ store.documents join.table, document.IsAssigned)
    (present : key.isNullish = false) (limit : Option Nat) :
    (engine.select scope { keyLookup join.table join.foreignKey [key] with limit }).run Server.driver
        world =
      (.finished (.ok (within limit (((store.documents join.table).filter
        (isWanted join.foreignKey [key])).map ObjectIdentifier.canonicalDocument))), world) := by
  have bound : Query.requireTable { keyLookup join.table join.foreignKey [key] with limit } =
      .ok join.table := if_neg named
  by_cases readable : Readable join key
  · obtain ⟨filter, made, decided⟩ := exists_filter_decides
      (clean_keyLookup plain fun other member => by rwa [List.mem_singleton.mp member])
    rw [← funext (hold_keyLookup join.table join.foreignKey [key])]
    refine (Program.run_orIfInvalidIdentifier_of_ok
      (run_selectRows_unshaped visible bound rfl made fun document _ => decided document)).trans ?_
    cases limit with
    | none => rfl
    | some most =>
      rw [within, ← List.map_take]
      rfl
  · obtain ⟨identifies, unfit⟩ := isIdentifier_of_not_readable present readable
    have degrades : Degrades engine { keyLookup join.table join.foreignKey [key] with limit } := by
      refine degrades_native bound (fun leaf member => ?_)
        ⟨.equal join.foreignKey key, List.mem_singleton_self _, ?_⟩
      · obtain rfl := List.mem_singleton.mp member
        rfl
      · rw [identifies]
        show (some idField != some idField || (Predicate.isIdentifier key && true)) = false
        rw [unfit, bne_self_eq_false]
        rfl
    have nothing : (store.documents join.table).filter (isWanted join.foreignKey [key]) = [] :=
      List.filter_eq_nil_iff.mpr fun document member => Bool.eq_false_iff.mp
        (isWanted_of_not_readable (assigned document member) present readable)
    rw [degrades.select scope, nothing]
    cases limit with
    | none => rfl
    | some most =>
      rw [List.map_nil, within, List.take_nil]
      rfl

/-- What a relationship gives that asks for the key of a row. -/
theorem run_rows {relationship : Relationship} {limit : Option Nat}
    (visible : world.state.visible? scope = some store) (named : join.table ≠ "")
    (undotted : Text.hasChar '.' join.localKey = false)
    (plain : Text.startsWith "$" join.foreignKey = false)
    (assigned : ∀ document ∈ store.documents join.table, document.IsAssigned)
    (asks : relationship.query? row = (Document.present? join.localKey row).map fun key =>
      { keyLookup join.table join.foreignKey [key] with limit }) :
    (relationship.rows engine scope row).run Server.driver world =
      (.finished (.ok (within limit (related join (store.documents join.table) row))), world) := by
  rw [← localKey?_eq_present? undotted] at asks
  rw [Relationship.rows, asks, related]
  cases keyed : localKey? join row with
  | none =>
    cases limit with
    | none => rfl
    | some most =>
      rw [within, List.take_nil]
      rfl
  | some key =>
    exact run_select_keyLookup visible named plain assigned (isNullish_of_localKey? keyed) limit

/-- **What a relationship to many rows gives.** -/
theorem run_hasMany (visible : world.state.visible? scope = some store) (named : join.table ≠ "")
    (undotted : Text.hasChar '.' join.localKey = false)
    (plain : Text.startsWith "$" join.foreignKey = false)
    (assigned : ∀ document ∈ store.documents join.table, document.IsAssigned) :
    ((Relationship.hasMany join.localKey join.foreignKey join.table).rows engine scope row).run
        Server.driver world =
      (.finished (.ok (related join (store.documents join.table) row)), world) := by
  have asks : (Relationship.hasMany join.localKey join.foreignKey join.table).query? row =
      (Document.present? join.localKey row).map fun key =>
        { keyLookup join.table join.foreignKey [key] with limit := none } := rfl
  exact run_rows visible named undotted plain assigned asks

/-- **What a relationship to one row gives** is the first row of the relationship to many. -/
theorem run_belongsTo (visible : world.state.visible? scope = some store) (named : join.table ≠ "")
    (undotted : Text.hasChar '.' join.localKey = false)
    (plain : Text.startsWith "$" join.foreignKey = false)
    (assigned : ∀ document ∈ store.documents join.table, document.IsAssigned) :
    ((Relationship.belongsTo join.localKey join.foreignKey join.table).first? engine scope row).run
        Server.driver world =
      (.finished (.ok (related join (store.documents join.table) row).head?), world) := by
  have asks : (Relationship.belongsTo join.localKey join.foreignKey join.table).query? row =
      (Document.present? join.localKey row).map fun key =>
        { keyLookup join.table join.foreignKey [key] with limit := some 1 } := rfl
  rw [Relationship.first?, Program.run_bind_of_ok (run_rows visible named undotted plain assigned asks)]
  show (Outcome.finished (.ok (List.head? (List.take 1 _))), world) = _
  rw [List.head?_take, if_neg Nat.one_ne_zero]

end Relations

/-! ### What joins give -/

section Joins

variable {join : Join} {rows documents : List Document} {row document : Document} {key : Value}

theorem lookupKeys_singleton_subset (keyed : localKey? join row = some key) :
    lookupKeys join [] [row] ⊆ [key] := by
  intro other member
  rcases exists_row_of_mem_lookupKeys member with before | ⟨_, owner, inside, own⟩
  · cases before
  · rw [List.mem_singleton.mp inside, keyed] at own
    rw [Option.some.inj own]
    exact List.mem_singleton_self other

/-- What an inner join places for a base row are the rows that match it. -/
theorem placed_joinRow (inner : join.kind = .inner) (joined : List Document) :
    placed join (joinRow join joined row) = (joined.filter (isMatch join row)).map Value.document := by
  have drops : join.kind.keepsUnmatchedBase = false := by rw [inner]; rfl
  rw [joinRow, drops]
  cases joined.filter (isMatch join row) with
  | nil => rfl
  | cons first others =>
    show placed join ((first :: others).map (extended join row)) = _
    rw [placed, List.filterMap_map]
    refine (List.filterMap_congr fun other _ => ?_).trans (congrFun List.filterMap_eq_map _)
    exact Document.get?_insert_self join.target (.document other) row

/-- An inner join gives nothing but what it gives for each base row. -/
theorem joinRows_of_inner (inner : join.kind = .inner) (joined : List Document) :
    joinRows join rows joined = rows.flatMap (joinRow join joined) := by
  rw [joinRows_eq_flatMap (by simp [inner]), inner]
  exact List.append_nil _

/-- A related row is shown for a document that the key of the base row finds. -/
theorem exists_of_mem_related {other : Document} (member : other ∈ related join documents row) :
    ∃ key document, localKey? join row = some key ∧ document ∈ documents ∧
      isWanted join.foreignKey [key] document = true ∧
        ObjectIdentifier.canonicalDocument document = other := by
  rw [related] at member
  cases keyed : localKey? join row with
  | none =>
    rw [keyed] at member
    cases member
  | some key =>
    rw [keyed] at member
    obtain ⟨document, found, shows⟩ := List.mem_map.mp member
    obtain ⟨inside, wanted⟩ := List.mem_filter.mp found
    exact ⟨key, document, rfl, inside, wanted, shows⟩

/-- **What a join gives for a base row** is what a relationship gives, without the rows that do not
match. -/
theorem filter_isMatch_related (undotted : Text.hasChar '.' join.foreignKey = false)
    (assigned : ∀ document ∈ documents, document.IsAssigned)
    (distinct : ∀ row ∈ rows, Document.hasDistinctKeys row = true) (inside : row ∈ rows) :
    (((documents.filter (isWanted join.foreignKey (lookupKeys join [] rows))).map
        ObjectIdentifier.canonicalDocument).filter (isMatch join row)) =
      (related join documents row).filter (isMatch join row) := by
  rw [related]
  cases keyed : localKey? join row with
  | none =>
    refine List.filter_eq_nil_iff.mpr fun other _ matched => ?_
    rw [isMatch, keyed] at matched
    cases matched
  | some key =>
    rw [List.filter_map, List.filter_map, List.filter_filter, List.filter_filter]
    congr 1
    refine List.filter_congr fun document member => ?_
    cases matched : isMatch join row (ObjectIdentifier.canonicalDocument document) with
    | false => simp [matched]
    | true =>
      -- A row that matches is fetched for the keys of all base rows as well as for its own.
      have among (others : List Document)
          (distinct : ∀ row ∈ others, Document.hasDistinctKeys row = true) (inside : row ∈ others) :
          isWanted join.foreignKey (lookupKeys join [] others) document = true :=
        isWanted_of_isMatch undotted (fun _ => assigned document member) distinct inside matched
      have single : isWanted join.foreignKey [key] document = true := by
        have own : ∀ other ∈ [row], Document.hasDistinctKeys other = true :=
          List.forall_mem_singleton.mpr (distinct row inside)
        have alone := among [row] own (List.mem_singleton_self row)
        obtain ⟨kept, member, equal⟩ := List.any_eq_true.mp alone
        exact List.any_eq_true.mpr ⟨kept, lookupKeys_singleton_subset keyed member, equal⟩
      simp [matched, among rows distinct inside, single]

end Joins

/-! ### Keys that filters and joins compare alike -/

section Alike

variable {join : Join} {documents : List Document} {row document : Document} {key left right : Value}

theorem eq_string_of_text? {text : String} (simple : left.isSimple = true)
    (written : left.text? = some text) : left = .string text := by
  cases left with
  | string other => rw [Option.some.inj written]
  | symbol other => cases simple
  | _ => cases written

/-- Simple values that filters take for equal are the same keys. -/
theorem sameKey_of_alike (former : left.isSimple = true) (latter : right.isSimple = true)
    (present : right.isNullish = false) (alike : left.alike right = true) :
    sameKey left right = true := by
  have scalar : left.alikeScalar right = true := by
    cases left with
    | array items => cases former
    | document fields => cases former
    | _ => exact alike
  have beyond : (left.isNullish && right.isNullish) = false := by rw [present, Bool.and_false]
  rw [Value.alikeScalar, beyond, Bool.false_or] at scalar
  cases first : left.text? with
  | none =>
    rw [first] at scalar
    exact scalar
  | some text =>
    obtain rfl := eq_string_of_text? former first
    cases second : right.text? with
    | none =>
      rw [second] at scalar
      exact scalar
    | some other =>
      obtain rfl := eq_string_of_text? latter second
      exact scalar

/-- A simple field that a filter takes for equal to a simple key is the same key. -/
theorem exists_sameKey_of_equalsOperand {field : Option Value} (latter : key.isSimple = true)
    (former : ∀ value, field = some value → value.isSimple = true) (present : key.isNullish = false)
    (equal : equalsOperand field key = true) :
    ∃ value, field = some value ∧ sameKey key value = true := by
  cases field with
  | none =>
    rw [equalsOperand, present] at equal
    cases equal
  | some value =>
    have simple := former value rfl
    have alike : value.alike key = true := by
      cases value with
      | array items => cases simple
      | _ => exact equal
    have plain : value.hasDistinctKeys = true := by
      cases value with
      | array items => cases simple
      | document fields => cases simple
      | javaScriptWithScope code scope => cases simple
      | _ => rfl
    exact ⟨value, rfl, sameKey_symm plain (sameKey_of_alike simple latter present alike)⟩

/-- **A document that is found for an undisputed key matches.** -/
theorem isMatch_of_isWanted (undotted : Text.hasChar '.' join.foreignKey = false)
    (assigned : document.IsAssigned) (inside : document ∈ documents)
    (keyed : localKey? join row = some key) (undisputed : Undisputed join documents key)
    (wanted : isWanted join.foreignKey [key] document = true) :
    isMatch join row (ObjectIdentifier.canonicalDocument document) = true := by
  rw [isWanted, List.any_cons, List.any_nil, Bool.or_false] at wanted
  rw [isMatch, keyed]
  by_cases identifies : join.foreignKey = idField
  · obtain ⟨named, rfl⟩ := undisputed.identifier identifies
    obtain ⟨identifier, stored⟩ := assigned
    rw [identifies, meant_hex, Predicate.fieldOf, if_pos rfl, Document.atPath?_eq_get? rfl,
      stored] at wanted
    have same : (identifier == named) = true := wanted
    rw [identifies, ObjectIdentifier.get?_id_canonicalDocument stored, eq_of_beq same]
    exact beq_self_eq_true named.hex
  · rw [Predicate.fieldOf, if_neg identifies, Document.atPath?_eq_get? undotted,
      Predicate.meant_of_ne identifies] at wanted
    obtain ⟨simple, others⟩ := undisputed.simple identifies
    have present := isNullish_of_localKey? keyed
    obtain ⟨value, found, same⟩ :=
      exists_sameKey_of_equalsOperand simple (others document inside) present wanted
    rw [ObjectIdentifier.get?_canonicalDocument_of_ne identifies undisputed.shown, found]
    exact same

end Alike

/-- **A join and a relationship find the same rows where the keys match.** For every base row, an inner
join places those of the related rows under its target whose key is the same as the one of the row, so
it places all of them exactly if all match, as they do if the key is undisputed; and a relationship to
one row gives the first related row. -/
theorem placed_eq_related_iff {α : Type} {program : Program interface α}
    (session : SessionOf (fun document => document.sparesIdentifier = true) program)
    (identifiers : IdentifierSource) {scope : Scope} {store : Store}
    (visible : (program.run Server.driver ⟨identifiers, Server.empty⟩).2.state.visible? scope =
      some store)
    {join : Join} (inner : join.kind = .inner) (named : join.table ≠ "")
    (direct : Text.hasChar '.' join.localKey = false)
    (undotted : Text.hasChar '.' join.foreignKey = false)
    (plain : Text.startsWith "$" join.foreignKey = false) {rows : List Document}
    (distinct : ∀ row ∈ rows, Document.hasDistinctKeys row = true) :
    let world := (program.run Server.driver ⟨identifiers, Server.empty⟩).2
    ∃ joined, (applyJoins scope [join] rows).run Server.driver world =
        (.finished (.ok (rows.flatMap (joinRow join joined))), world) ∧
      ∀ row ∈ rows, ∃ related,
        ((Relationship.hasMany join.localKey join.foreignKey join.table).rows engine scope row).run
          Server.driver world = (.finished (.ok related), world) ∧
        ((Relationship.belongsTo join.localKey join.foreignKey join.table).first? engine scope row).run
          Server.driver world = (.finished (.ok related.head?), world) ∧
        placed join (joinRow join joined row) =
          (related.filter (isMatch join row)).map Value.document ∧
        (placed join (joinRow join joined row) = related.map Value.document ↔
          ∀ other ∈ related, isMatch join row other = true) ∧
        ((∀ key, localKey? join row = some key →
            Undisputed join (store.documents join.table) key) →
          placed join (joinRow join joined row) = related.map Value.document) := by
  intro world
  have assigned := isAssigned_of_session session identifiers visible join.table
  generalize fetches : ((store.documents join.table).filter (isWanted join.foreignKey
    (lookupKeys join [] rows))).map ObjectIdentifier.canonicalDocument = joined
  refine ⟨joined, ?_, fun row inside => ?_⟩
  · rw [← joinRows_of_inner inner, ← fetches]
    exact Program.run_bind_of_ok (run_lookupJoined visible (.inl inner) named plain) _
  · have places : placed join (joinRow join joined row) =
        ((related join (store.documents join.table) row).filter (isMatch join row)).map
          Value.document := by
      rw [placed_joinRow inner, ← fetches]
      exact congrArg (List.map Value.document)
        (filter_isMatch_related undotted assigned distinct inside)
    have all_iff : placed join (joinRow join joined row) =
        (related join (store.documents join.table) row).map Value.document ↔
          ∀ other ∈ related join (store.documents join.table) row, isMatch join row other = true := by
      rw [places, (List.map_injective_iff.mpr fun _ _ => Value.document.inj).eq_iff]
      exact List.filter_eq_self
    refine ⟨related join (store.documents join.table) row,
      run_hasMany visible named direct plain assigned,
      run_belongsTo visible named direct plain assigned, places, all_iff, fun undisputed => ?_⟩
    refine all_iff.mpr fun other member => ?_
    obtain ⟨key, document, keyed, among, wanted, rfl⟩ := exists_of_mem_related member
    exact isMatch_of_isWanted undotted (assigned document among) among keyed (undisputed key keyed)
      wanted

/-- Two people, and posts that refer to them by name and by identifier. -/
def authored : Program interface (List Document) := do
  let _ ← (connected .connection .raising).insertMany (Query.ofTable "people")
    [[("name", .string "Ann")], [("name", .string "Bob")]]
  (connected .connection .raising).insertMany (Query.ofTable "posts")
    [[("author", .string "Ann")], [("author", .objectId ⟨1⟩)]]

/-- The people and their posts. -/
def archive : Store :=
  [("people",
    [[("_id", .objectId ⟨0⟩), ("name", .string "Ann")],
      [("_id", .objectId ⟨1⟩), ("name", .string "Bob")]]),
   ("posts",
    [[("_id", .objectId ⟨2⟩), ("author", .string "Ann")],
      [("_id", .objectId ⟨3⟩), ("author", .objectId ⟨1⟩)]])]

theorem run_authored :
    (authored.run Server.driver ⟨⟨0, 0⟩, Server.empty⟩).2 = ⟨⟨0, 4⟩, ⟨archive, none, 0⟩⟩ := rfl

/-- The row of the post by name. -/
def namedPost : Document := [("id", .string "000000000000000000000002"), ("author", .string "Ann")]

/-- The row of the post by identifier. -/
def markedPost : Document := [("id", .string "000000000000000000000003"), ("author", .objectId ⟨1⟩)]

/-- The author of a post, by a field of people. -/
def authorBy (foreignKey : String) : Join := ⟨.inner, "people", "author", foreignKey, "writer"⟩

/-- A post by name is joined with the row that it is related to. -/
theorem placed_eq_related_namedPost :
    ∃ joined,
      (applyJoins .connection [authorBy "name"] [namedPost]).run Server.driver
          ⟨⟨0, 4⟩, ⟨archive, none, 0⟩⟩ =
        (.finished (.ok ([namedPost].flatMap (joinRow (authorBy "name") joined))),
          ⟨⟨0, 4⟩, ⟨archive, none, 0⟩⟩) ∧
      placed (authorBy "name") (joinRow (authorBy "name") joined namedPost) =
        [.document [("id", .string "000000000000000000000000"), ("name", .string "Ann")]] := by
  have session : SessionOf (fun document => document.sparesIdentifier = true) authored := by
    refine .series (.insertMany _ _ _ ?_) fun _ => .insertMany _ _ _ ?_ <;> decide
  have visible : (authored.run Server.driver ⟨⟨0, 0⟩, Server.empty⟩).2.state.visible? .connection =
      some archive := by
    rw [run_authored]
    rfl
  have distinct : ∀ row ∈ [namedPost], Document.hasDistinctKeys row = true := by decide +kernel
  obtain ⟨joined, ran, each⟩ := @placed_eq_related_iff _ _ session ⟨0, 0⟩ .connection archive visible
    (authorBy "name") rfl (by decide) (by decide) (by decide) (by decide) [namedPost] distinct
  rw [run_authored] at ran each
  obtain ⟨related, many, _, _, _, alike⟩ := each namedPost List.mem_cons_self
  have asked : ((Relationship.hasMany "author" "name" "people").rows engine .connection namedPost).run
      Server.driver ⟨⟨0, 4⟩, ⟨archive, none, 0⟩⟩ =
        (.finished (.ok [[("id", .string "000000000000000000000000"), ("name", .string "Ann")]]),
          ⟨⟨0, 4⟩, ⟨archive, none, 0⟩⟩) := rfl
  have found : related = [[("id", .string "000000000000000000000000"), ("name", .string "Ann")]] :=
    Except.ok.inj (Outcome.finished.inj (Prod.mk.inj (many.symm.trans asked)).1)
  have undisputed : ∀ key, localKey? (authorBy "name") namedPost = some key →
      Undisputed (authorBy "name") (archive.documents "people") key := by
    intro key keyed
    obtain rfl : Value.string "Ann" = key := Option.some.inj keyed
    refine ⟨by decide, fun same => absurd same (by decide), fun _ => ⟨rfl, ?_⟩⟩
    intro document member value named
    change document ∈ [_, _] at member
    simp only [List.mem_cons, List.not_mem_nil, or_false] at member
    rcases member with rfl | rfl <;> exact Option.some.inj named ▸ rfl
  refine ⟨joined, ran, ?_⟩
  rw [alike undisputed, found]
  rfl

/-- **A post by identifier** is related to its author, but not joined with him. -/
theorem placed_ne_related_markedPost :
    (authored.run Server.driver ⟨⟨0, 0⟩, Server.empty⟩).2 = ⟨⟨0, 4⟩, ⟨archive, none, 0⟩⟩ ∧
    (applyJoins .connection [authorBy "id"] [markedPost]).run Server.driver
        ⟨⟨0, 4⟩, ⟨archive, none, 0⟩⟩ =
      (.finished (.ok []), ⟨⟨0, 4⟩, ⟨archive, none, 0⟩⟩) ∧
    ((Relationship.hasMany "author" "id" "people").rows engine .connection markedPost).run Server.driver
        ⟨⟨0, 4⟩, ⟨archive, none, 0⟩⟩ =
      (.finished (.ok [[("id", .string "000000000000000000000001"), ("name", .string "Bob")]]),
        ⟨⟨0, 4⟩, ⟨archive, none, 0⟩⟩) :=
  ⟨rfl, rfl, rfl⟩

end Polystore
