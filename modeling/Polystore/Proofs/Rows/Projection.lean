/-
**Selected columns that the store cuts documents down to.**

Where rows need no work afterwards, the store is asked for the selected fields only. It goes by the keys
of a document, the selection afterwards by paths through it: a value inside of a nested document reaches
the selection only if the whole document was selected under its own key (`Native.Lost`).

* `get?_projected`: the fields that the projection of a query keeps;
* `lookup?_storedRow`: what its columns find in the rows that it makes;
* `selectedRow_cut_eq_iff`: when a row loses nothing;
* `select_eq_cut`: the rows of a query with columns, from those of the query without.
-/

import Polystore.Proofs.Program.Calls
import Polystore.Proofs.Rows.Pages
import Polystore.Proofs.Rows.RoundTrip

namespace Polystore

open Memory Native

/-- The query for whole rows. -/
def Query.whole (query : Query) : Query := { query with columns := [] }

/-- The fields of a row whose keys columns name. -/
def Native.cut (columns : List Column) (row : Document) : Document :=
  row.filter fun field => columns.any (·.name == field.1)

/-- **Whether a projection loses the value of a column**: it stands in a nested document, and the key of
the outermost one is not among the columns. -/
structure Native.Lost (columns : List Column) (row : Document) (column : Column) : Prop where
  found : (Document.lookup? column.name row).isSome
  nested : Document.get? column.name row = none
  unnamed : ∀ key ∈ (Text.segmentsOf '.' column.name).head?, columns.any (·.name == key) = false

/-! ### Fields and paths -/

namespace Document

variable {key path : String} {left right document : Document}

theorem get?_filter_key (keeps : String → Bool) (key : String) (document : Document) :
    get? key (document.filter fun field => keeps field.1) =
      if keeps key then get? key document else none := by
  induction document with
  | nil => exact (ite_self _).symm
  | cons field rest hypothesis =>
    obtain ⟨name, value⟩ := field
    by_cases same : name = key
    · subst same
      cases kept : keeps name with
      | false =>
        rw [List.filter_cons_of_neg (by simp [kept]), hypothesis, kept]
        rfl
      | true =>
        rw [List.filter_cons_of_pos (p := fun field : String × Value => keeps field.1) kept, get?,
          if_pos rfl, if_pos rfl, get?, if_pos rfl]
    · rw [get?, if_neg same, ← hypothesis, List.filter_cons]
      split
      · rw [get?, if_neg same]
      · rfl

/-- Fields with one value, whether or not their keys repeat. -/
theorem get?_extend_replicated (value : Value) (names : List String) (key : String)
    (document : Document) :
    get? key (extend document (names.map (·, value))) =
      if key ∈ names then some value else get? key document := by
  induction names generalizing document with
  | nil => rfl
  | cons name rest hypothesis =>
    show get? key (extend (insert name value document) (rest.map (·, value))) = _
    rw [hypothesis]
    by_cases later : key ∈ rest
    · rw [if_pos later, if_pos (List.mem_cons_of_mem _ later)]
    · rw [if_neg later]
      by_cases same : key = name
      · rw [same, get?_insert_self, if_pos List.mem_cons_self]
      · rw [get?_insert_of_ne same, if_neg (List.not_mem_cons_of_ne_of_not_mem same later)]

/-- A path that is a key leads to the value of that key. -/
theorem lookup?_of_get? {value : Value} (found : get? path document = some value) :
    lookup? path document = some value := by
  have whole : Text.joined "." (Text.segmentsOf '.' path) = path := Text.joined_segmentsOf '.' path
  obtain ⟨key, rest, segments⟩ := List.exists_cons_of_ne_nil (Text.segmentsOf_ne_nil '.' path)
  rw [segments] at whole
  rw [lookup?, segments, lookupSegments?, whole, found]

/-- A path that is no key leads through the document under its first segment. -/
theorem lookup?_of_none (absent : get? path document = none) :
    lookup? path document =
      match Text.segmentsOf '.' path with
      | key :: next :: rest =>
        match get? key document with
        | some (.document inner) => lookupSegments? (next :: rest) inner
        | _ => none
      | _ => none := by
  have whole : Text.joined "." (Text.segmentsOf '.' path) = path := Text.joined_segmentsOf '.' path
  rw [lookup?]
  generalize Text.segmentsOf '.' path = segments at whole
  obtain _ | ⟨key, _ | ⟨next, rest⟩⟩ := segments
  · rfl
  · rw [lookupSegments?, whole, absent]
    rfl
  · rw [lookupSegments?, whole, absent]
    rfl

/-- A path leads to the same value in rows that agree on it as a key, and on the document under its
first segment. -/
theorem lookup?_congr (same : get? path left = get? path right)
    (inner : ∀ key next rest, Text.segmentsOf '.' path = key :: next :: rest → ∀ document,
      get? key left = some (.document document) ↔ get? key right = some (.document document)) :
    lookup? path left = lookup? path right := by
  cases found : get? path right with
  | some value => rw [lookup?_of_get? found, lookup?_of_get? (same.trans found)]
  | none =>
    rw [lookup?_of_none found, lookup?_of_none (same.trans found)]
    generalize Text.segmentsOf '.' path = segments at inner
    match segments with
    | [] | [_] => rfl
    | key :: next :: rest =>
      have agree := inner key next rest rfl
      simp only
      split
      · rename_i document first
        rw [(agree document).mp first]
      · rename_i other
        split
        · rename_i document second
          exact absurd ((agree document).mpr second) (other document)
        · rfl

end Document

/-! ### What a projection keeps -/

section Kept

variable {columns : List Column} {document : Document} {key : String}

/-- Whether a column is stored under a key. -/
def Native.isStored (columns : List Column) (key : String) : Bool :=
  columns.any fun column => field column.name == key

theorem mem_map_field : key ∈ columns.map (fun column => field column.name) ↔
    isStored columns key = true := by
  simp [isStored, List.any_eq_true]

/-- The flags of a projection. -/
theorem exists_projection (present : columns ≠ []) :
    ∃ flags, projection columns = some flags ∧ ∀ key, Document.get? key flags =
      if isStored columns key then some (.int32 1)
      else if key = ObjectIdentifier.nativeField then some (.int32 0)
      else none := by
  let included := Document.ofFields (columns.map fun column => (field column.name, Value.int32 1))
  have flags (key : String) : Document.get? key included =
      if isStored columns key then some (.int32 1) else none := by
    have replicated := Document.get?_extend_replicated (.int32 1)
      (columns.map fun column => field column.name) key []
    rw [List.map_map] at replicated
    simp only [mem_map_field] at replicated
    exact replicated
  have filled : columns.isEmpty = false := List.isEmpty_eq_false_iff.mpr present
  cases native : isStored columns ObjectIdentifier.nativeField with
  | true =>
    refine ⟨included, ?_, fun key => ?_⟩
    · have contained : Document.contains ObjectIdentifier.nativeField included = true := by
        rw [Document.contains, flags, native]
        rfl
      rw [projection, filled]
      exact congrArg some (if_pos contained)
    · rw [flags]
      split
      · rfl
      · rename_i unstored
        rw [if_neg]
        rintro rfl
        exact unstored native
  | false =>
    refine ⟨Document.insert ObjectIdentifier.nativeField (.int32 0) included, ?_, fun key => ?_⟩
    · have missing : ¬ Document.contains ObjectIdentifier.nativeField included = true := by
        rw [Document.contains, flags, native]
        exact Bool.false_ne_true
      rw [projection, filled]
      exact congrArg some (if_neg missing)
    · by_cases same : key = ObjectIdentifier.nativeField
      · rw [same, Document.get?_insert_self, native, if_pos rfl]
        rfl
      · rw [Document.get?_insert_of_ne same, flags, if_neg same]

/-- Such flags select fields other than the identifier if a column is stored under one. -/
theorem any_isShown_flags {flags : Document} (stores : ∀ key, Document.get? key flags =
      if isStored columns key then some (.int32 1)
      else if key = ObjectIdentifier.nativeField then some (.int32 0)
      else none) :
    (flags.any fun entry => entry.1 != ObjectIdentifier.nativeField && isShown entry.2) =
      !columns.all fun column => field column.name == ObjectIdentifier.nativeField := by
  rw [Bool.eq_iff_iff, List.any_eq_true, List.not_all_eq_any_not, List.any_eq_true]
  constructor
  · rintro ⟨⟨name, flag⟩, member, shown⟩
    rw [Bool.and_eq_true, bne_iff_ne] at shown
    have known : (Document.get? name flags).isSome :=
      Document.contains_iff.mpr (List.mem_map_of_mem (f := Prod.fst) member)
    rw [stores, if_neg shown.1] at known
    split at known
    · rename_i stored
      obtain ⟨column, inside, same⟩ := List.any_eq_true.mp stored
      refine ⟨column, inside, ?_⟩
      rw [eq_of_beq same]
      simpa using shown.1
    · cases known
  · rintro ⟨column, inside, other⟩
    have stored : isStored columns (field column.name) = true :=
      List.any_eq_true.mpr ⟨column, inside, beq_self_eq_true _⟩
    have known := stores (field column.name)
    rw [if_pos stored] at known
    refine ⟨_, Document.mem_of_get? known, ?_⟩
    rw [Bool.not_eq_true'] at other
    exact Bool.and_eq_true_iff.mpr ⟨bne_iff_ne.mpr (ne_of_beq_false other), rfl⟩

/-- What a store keeps of a field, by the flags of a projection. -/
theorem get?_projected_some (flags : Document) (key : String) (document : Document) :
    Document.get? key (projected (some flags) document) =
      if shows flags (!(flags.any fun entry =>
          entry.1 != ObjectIdentifier.nativeField && isShown entry.2)
        || key == ObjectIdentifier.nativeField) key then Document.get? key document
      else none :=
  Document.get?_filter_key (fun name => shows flags (!(flags.any fun entry =>
    entry.1 != ObjectIdentifier.nativeField && isShown entry.2)
      || name == ObjectIdentifier.nativeField) name) key document

/-- **The fields that a projection keeps**: those that columns are stored under; and unless there is one
other than the identifier among them, all others, too. -/
theorem get?_projected (present : columns ≠ []) (key : String) (document : Document) :
    Document.get? key (projected (projection columns) document) =
      if isStored columns key || (key != ObjectIdentifier.nativeField
          && columns.all fun column => field column.name == ObjectIdentifier.nativeField) then
        Document.get? key document
      else none := by
  obtain ⟨flags, written, stores⟩ := exists_projection present
  rw [written, get?_projected_some, any_isShown_flags stores, Bool.not_not]
  generalize (columns.all fun column => field column.name == ObjectIdentifier.nativeField) = plain
  congr 2
  rw [shows, stores]
  by_cases native : key = ObjectIdentifier.nativeField
  · subst native
    cases isStored columns ObjectIdentifier.nativeField <;> rfl
  · rw [beq_false_of_ne native, bne_iff_ne.mpr native, Bool.or_false, Bool.true_and]
    cases isStored columns key with
    | true => rfl
    | false =>
      rw [if_neg Bool.false_ne_true, if_neg native]
      rfl

theorem get?_cut (columns : List Column) (key : String) (row : Document) :
    Document.get? key (cut columns row) =
      if columns.any (·.name == key) then Document.get? key row else none :=
  Document.get?_filter_key (fun name => columns.any (·.name == name)) key row

/-- Columns other than the identifier are stored under their names. -/
theorem isStored_of_ne (columns : List Column) (other : key ≠ idField)
    (different : key ≠ ObjectIdentifier.nativeField) :
    isStored columns key = columns.any (·.name == key) := by
  refine congrArg columns.any (funext fun column => ?_)
  rw [field]
  split
  · rename_i identifies
    rw [identifies, beq_false_of_ne (Ne.symm different), beq_false_of_ne (Ne.symm other)]
  · rfl

/-- No column is stored under the name that rows show their identifier with. -/
theorem isStored_idField (columns : List Column) : isStored columns idField = false := by
  refine List.any_eq_false.mpr fun column _ => ?_
  rw [field]
  split
  · decide
  · rename_i other
    simpa using other

theorem canonicalValue_ne_document (value : Value) (inner : Document) :
    ObjectIdentifier.canonicalValue value ≠ .document inner := by
  cases value <;> nofun

section Selected

variable {native : Value} {column : Column}

/-- A selected column is in the projected row what it is in the whole one. -/
theorem get?_storedRow (present : columns ≠ [])
    (carried : Document.get? ObjectIdentifier.nativeField document = some native)
    (selected : column ∈ columns) :
    Document.get? column.name
        (ObjectIdentifier.canonicalDocument (projected (projection columns) document)) =
      Document.get? column.name (cut columns (ObjectIdentifier.canonicalDocument document)) := by
  have named : columns.any (·.name == column.name) = true :=
    List.any_eq_true.mpr ⟨column, selected, beq_self_eq_true _⟩
  rw [get?_cut, named, if_pos rfl]
  by_cases identifies : column.name = idField
  · have stored : isStored columns ObjectIdentifier.nativeField = true :=
      List.any_eq_true.mpr ⟨column, selected, by rw [field, if_pos identifies]; rfl⟩
    have kept := get?_projected present ObjectIdentifier.nativeField document
    rw [stored, Bool.true_or, if_pos rfl, carried] at kept
    rw [identifies, ObjectIdentifier.get?_id_canonicalDocument kept,
      ObjectIdentifier.get?_id_canonicalDocument carried]
  · by_cases hidden : column.name = ObjectIdentifier.nativeField
    · rw [hidden, ObjectIdentifier.get?_native_canonicalDocument,
        ObjectIdentifier.get?_native_canonicalDocument]
    · rw [ObjectIdentifier.get?_canonicalDocument_of_ne identifies hidden,
        ObjectIdentifier.get?_canonicalDocument_of_ne identifies hidden,
        get?_projected present, isStored_of_ne columns identifies hidden, named]
      rfl

/-- A projected row shows no document for its identifier. -/
theorem get?_id_storedRow_ne (present : columns ≠ [])
    (carried : Document.get? ObjectIdentifier.nativeField document = some native) (inner : Document) :
    Document.get? idField
      (ObjectIdentifier.canonicalDocument (projected (projection columns) document)) ≠
        some (.document inner) := by
  have kept := get?_projected present ObjectIdentifier.nativeField document
  cases stored : isStored columns ObjectIdentifier.nativeField with
  | true =>
    rw [stored, Bool.true_or, if_pos rfl, carried] at kept
    rw [ObjectIdentifier.get?_id_canonicalDocument kept]
    exact fun same => canonicalValue_ne_document native inner (Option.some.inj same)
  | false =>
    rw [stored, bne_self_eq_false, Bool.false_and, Bool.or_false, if_neg Bool.false_ne_true] at kept
    -- Without its identifier the document is shown as it is, and a field `id` of its own is not kept.
    have itself : ObjectIdentifier.canonicalDocument (projected (projection columns) document) =
        projected (projection columns) document := by
      rw [ObjectIdentifier.canonicalDocument, kept]
    have selective : (columns.all fun column =>
        field column.name == ObjectIdentifier.nativeField) = false := by
      obtain ⟨first, rest, rfl⟩ := List.exists_cons_of_ne_nil present
      obtain ⟨unstored, _⟩ := Bool.or_eq_false_iff.mp stored
      exact Bool.and_eq_false_iff.mpr (.inl unstored)
    rw [itself, get?_projected present, isStored_idField, selective]
    intro shown
    cases shown

/-- **What a selected column finds in a projected row**: what it finds in the fields of the whole row
whose keys are selected. -/
theorem lookup?_storedRow (present : columns ≠ [])
    (carried : Document.get? ObjectIdentifier.nativeField document = some native)
    (selected : column ∈ columns) :
    Document.lookup? column.name
        (ObjectIdentifier.canonicalDocument (projected (projection columns) document)) =
      Document.lookup? column.name (cut columns (ObjectIdentifier.canonicalDocument document)) := by
  refine Document.lookup?_congr (get?_storedRow present carried selected) ?_
  intro key next rest segments inner
  by_cases identifies : key = idField
  · rw [identifies, iff_false_left (get?_id_storedRow_ne present carried inner), get?_cut]
    split
    · rw [ObjectIdentifier.get?_id_canonicalDocument carried]
      exact fun same => canonicalValue_ne_document native inner (Option.some.inj same)
    · nofun
  · by_cases hidden : key = ObjectIdentifier.nativeField
    · rw [hidden, get?_cut, ObjectIdentifier.get?_native_canonicalDocument,
        ObjectIdentifier.get?_native_canonicalDocument, ite_self]
    · have selective : (columns.all fun column =>
          field column.name == ObjectIdentifier.nativeField) = false := by
        refine List.all_eq_false.mpr ⟨column, selected, fun same => ?_⟩
        have stored := eq_of_beq same
        have dotted : ∀ {name : String}, Text.segmentsOf '.' name = [name] → column.name ≠ name := by
          rintro name single rfl
          rw [single] at segments
          cases segments
        rw [field, if_neg (dotted rfl)] at stored
        exact dotted rfl stored
      rw [ObjectIdentifier.get?_canonicalDocument_of_ne identifies hidden, get?_projected present,
        isStored_of_ne columns identifies hidden, selective, Bool.and_false, Bool.or_false, get?_cut,
        ObjectIdentifier.get?_canonicalDocument_of_ne identifies hidden]

end Selected

end Kept

/-! ### What a cut loses -/

section Cuts

variable {columns : List Column} {row : Document} {column : Column}

/-- A column whose value is lost finds nothing. -/
theorem lookup?_cut_of_lost (lost : Lost columns row column) :
    Document.lookup? column.name (cut columns row) = none := by
  have absent : Document.get? column.name (cut columns row) = none := by
    rw [get?_cut, lost.nested, ite_self]
  rw [Document.lookup?_of_none absent]
  match segments : Text.segmentsOf '.' column.name with
  | [] | [_] => rfl
  | key :: next :: rest =>
    have unnamed := lost.unnamed key (by rw [segments]; rfl)
    simp only
    rw [get?_cut, unnamed]
    rfl

/-- Every other column finds what it finds in the whole row. -/
theorem lookup?_cut_of_not_lost (selected : column ∈ columns) (kept : ¬ Lost columns row column) :
    Document.lookup? column.name (cut columns row) = Document.lookup? column.name row := by
  have named : columns.any (·.name == column.name) = true :=
    List.any_eq_true.mpr ⟨column, selected, beq_self_eq_true _⟩
  have whole : Document.get? column.name (cut columns row) = Document.get? column.name row := by
    rw [get?_cut, named, if_pos rfl]
  cases direct : Document.get? column.name row with
  | some value => rw [Document.lookup?_of_get? direct, Document.lookup?_of_get? (whole.trans direct)]
  | none =>
    by_cases unnamed : ∀ key ∈ (Text.segmentsOf '.' column.name).head?,
        columns.any (·.name == key) = false
    · -- Nothing stands at the end of the path.
      have missing : Document.lookup? column.name row = none :=
        Option.not_isSome_iff_eq_none.mp fun found => kept ⟨found, direct, unnamed⟩
      rw [missing, Document.lookup?_of_none (whole.trans direct)]
      match segments : Text.segmentsOf '.' column.name with
      | [] | [_] => rfl
      | key :: next :: rest =>
        simp only
        rw [get?_cut, unnamed key (by rw [segments]; rfl)]
        rfl
    · refine Document.lookup?_congr whole fun key next rest segments inner => ?_
      have selects : columns.any (·.name == key) = true := by
        refine (Bool.not_eq_false _).mp fun missing => unnamed fun other head => ?_
        rw [segments] at head
        obtain rfl := Option.mem_some_iff.mp head
        exact missing
      rw [get?_cut, selects, if_pos rfl]

/-- A column without a dot is a key, and not lost. -/
theorem not_lost_of_undotted (undotted : Text.hasChar '.' column.name = false) :
    ¬ Lost columns row column := by
  intro lost
  have found := lost.found
  rw [Document.lookup?_eq_get? undotted, lost.nested] at found
  cases found

theorem selectedRow_congr {first second : Document}
    (same : ∀ column ∈ columns,
      Document.lookup? column.name first = Document.lookup? column.name second) :
    selectedRow columns [] first = selectedRow columns [] second := by
  have fields : (columns.filterMap fun column =>
      (Document.lookup? column.name first).map fun value => (column.outputName, value)) =
        columns.filterMap fun column =>
          (Document.lookup? column.name second).map fun value => (column.outputName, value) :=
    List.filterMap_congr fun column selected => by rw [same column selected]
  unfold selectedRow
  simp only
  rw [fields]
  rfl

theorem keys_selection (columns : List Column) (row : Document) :
    Document.keys (columns.filterMap fun column =>
      (Document.lookup? column.name row).map fun value => (column.outputName, value)) =
        (columns.filter fun column => (Document.lookup? column.name row).isSome).map
          Column.outputName := by
  induction columns with
  | nil => rfl
  | cons column rest hypothesis =>
    cases found : Document.lookup? column.name row with
    | none =>
      rw [List.filterMap_cons_none (by rw [found]; rfl), hypothesis,
        List.filter_cons_of_neg (by rw [found]; exact Bool.false_ne_true)]
    | some value =>
      rw [List.filterMap_cons_some (by rw [found]; rfl),
        List.filter_cons_of_pos (by rw [found]; rfl), List.map_cons, ← hypothesis]
      rfl

/-- A selected row holds under an output name of its own what the column finds. -/
theorem get?_selectedRow (apart : (columns.map Column.outputName).Nodup) (selected : column ∈ columns) :
    Document.get? column.outputName (selectedRow columns [] row) =
      Document.lookup? column.name row := by
  have keys := keys_selection columns row
  unfold selectedRow
  simp only [List.filterMap_nil, List.append_nil]
  generalize fields : (columns.filterMap fun column =>
    (Document.lookup? column.name row).map fun value => (column.outputName, value)) = selection at keys
  have distinct : (Document.keys selection).Nodup := by
    rw [keys]
    exact (List.filter_sublist.map _).nodup apart
  have listed : Document.ofFields selection = selection :=
    Document.extend_of_disjoint distinct fun _ _ => List.not_mem_nil
  rw [listed]
  cases found : Document.lookup? column.name row with
  | some value =>
    refine Document.get?_of_mem distinct ?_
    rw [← fields]
    exact List.mem_filterMap.mpr ⟨column, selected, by rw [found]; rfl⟩
  | none =>
    refine Document.get?_of_not_mem_keys fun member => ?_
    rw [keys] at member
    obtain ⟨other, inside, same⟩ := List.mem_map.mp member
    obtain ⟨among, finds⟩ := List.mem_filter.mp inside
    rw [List.inj_on_of_nodup_map apart among selected same, found] at finds
    cases finds

/-- **A cut row is selected as the whole one exactly if no column loses its value**, where no two columns
have the same output name. -/
theorem selectedRow_cut_eq_iff (apart : (columns.map Column.outputName).Nodup) :
    selectedRow columns [] (cut columns row) = selectedRow columns [] row ↔
      ∀ column ∈ columns, ¬ Lost columns row column := by
  constructor
  · intro same column selected lost
    have found := lost.found
    rw [← get?_selectedRow apart selected, ← same, get?_selectedRow apart selected,
      lookup?_cut_of_lost lost] at found
    cases found
  · intro kept
    exact selectedRow_congr fun column selected => lookup?_cut_of_not_lost selected (kept column selected)

end Cuts

/-! ### The rows of a query with columns -/

section Selects

variable {scope : Scope} {store : Store} {query : Query} {world : World Server}

/-- The rows that nothing is done with but a selection. -/
theorem windowed_selected (direct : query.isPostProcessed = false) (rows : List Document) :
    windowed query (selected query (grouped query rows)) =
      if !query.columns.isEmpty then selectColumns query.columns [] rows else rows := by
  obtain ⟨unjoined, ungrouped, repeated⟩ := isPostProcessed_eq_false_iff.mp direct
  rw [windowed_eq, direct, if_neg Bool.false_ne_true, grouped_of_ungrouped ungrouped,
    selected_of_undistinct repeated, unjoined]
  rfl

theorem mem_of_mem_window {α : Type} {rows : List α} {row : α} (member : row ∈ query.window rows) :
    row ∈ rows := by
  unfold Query.window at member
  cases limited : query.limit with
  | none => exact List.mem_of_mem_drop (by simpa [limited] using member)
  | some limit =>
    exact List.mem_of_mem_drop (List.mem_of_mem_take (by simpa [limited] using member))

/-- What is done with accepted documents in the store, and what is done with whole rows. -/
theorem windowed_selected_listedRows (direct : query.isPostProcessed = false)
    (present : query.columns ≠ []) {accepted : List Document}
    (identified : ∀ document ∈ accepted,
      Document.contains ObjectIdentifier.nativeField document = true) :
    windowed query (selected query (grouped query (listedRows query accepted))) =
      (windowed query.whole (selected query.whole (grouped query.whole
        (listedRows query.whole accepted)))).map fun row =>
          selectedRow query.columns [] (cut query.columns row) := by
  have plain : query.whole.isPostProcessed = false := direct
  have filled : query.columns.isEmpty = false := List.isEmpty_eq_false_iff.mpr present
  have listed : listedRows query accepted =
      (query.window (sorted (sort query.orders) accepted)).map (storedRow query) := by
    rw [listedRows, direct]
    rfl
  have whole : listedRows query.whole accepted =
      (query.window (sorted (sort query.orders) accepted)).map (storedRow query.whole) := by
    rw [listedRows, plain]
    rfl
  rw [windowed_selected direct, windowed_selected plain, filled, listed, whole]
  show selectColumns query.columns [] _ = List.map _ (List.map _ _)
  rw [selectColumns, List.map_map, List.map_map]
  refine List.map_congr_left fun document member => selectedRow_congr fun column selected => ?_
  have inside : document ∈ accepted := mem_sorted.mp (mem_of_mem_window member)
  obtain ⟨native, carried⟩ := Option.isSome_iff_exists.mp (identified document inside)
  rw [storedRow, storeProjection, direct, storedRow, storeProjection, plain]
  exact lookup?_storedRow present carried selected

/-- **The rows of a query with columns** are cut out of those of the query for whole rows. -/
theorem evaluate_select_cut (identified : store.IsIdentified) (direct : query.isPostProcessed = false)
    (present : query.columns ≠ []) :
    (engine.select scope query).evaluate store.reply =
      ((engine.select scope query.whole).evaluate store.reply).map
        (List.map fun row => selectedRow query.columns [] (cut query.columns row)) := by
  rw [evaluate_select, evaluate_select]
  refine Eq.trans ?_ (Program.readable_map
    (List.map fun row => selectedRow query.columns [] (cut query.columns row)) [] _)
  refine congrArg (Program.readable []) ?_
  have unjoined := (isPostProcessed_eq_false_iff.mp direct).1
  have alone : query.whole.joins = [] := unjoined
  rw [evaluate_selectRows, evaluate_selectRows, map_bind_eq, unjoined, alone]
  refine bind_congr fun table => ?_
  rw [map_bind_eq]
  refine bind_congr fun filter => ?_
  cases matched : matching filter (store.documents table) with
  | error error => rfl
  | ok accepted =>
    refine congrArg Except.ok ?_
    exact windowed_selected_listedRows direct present fun document member =>
      identified table document (mem_of_matching matched member).1

/-- **A projection in the store loses what stands in nested documents.** The rows of a query with
columns are those of whole documents, reduced to the selected columns, if no column loses its value in
them; and where no two columns have the same output name, only then. -/
theorem select_eq_cut (visible : world.state.visible? scope = some store)
    (identified : store.IsIdentified) (direct : query.isPostProcessed = false)
    (present : query.columns ≠ []) :
    ∃ result : Except DatabaseError (List Document),
      (engine.select scope query.whole).run Server.driver world = (.finished result, world) ∧
      (engine.select scope query).run Server.driver world =
        (.finished (result.map
          (List.map fun row => selectedRow query.columns [] (cut query.columns row))), world) ∧
      ∀ rows, result = .ok rows →
        ((∀ row ∈ rows, ∀ column ∈ query.columns, ¬ Lost query.columns row column) →
          (engine.select scope query).run Server.driver world =
            (.finished (.ok (selectColumns query.columns [] rows)), world)) ∧
        ((query.columns.map Column.outputName).Nodup →
          (engine.select scope query).run Server.driver world =
            (.finished (.ok (selectColumns query.columns [] rows)), world) →
          ∀ row ∈ rows, ∀ column ∈ query.columns, ¬ Lost query.columns row column) := by
  have cuts : (engine.select scope query).run Server.driver world = _ :=
    run_of_reads visible (reads_select query)
  rw [evaluate_select_cut identified direct present] at cuts
  refine ⟨_, run_of_reads visible (reads_select query.whole), cuts, fun rows succeeds => ?_⟩
  rw [succeeds] at cuts
  rw [cuts]
  constructor
  · intro kept
    have same : rows.map (fun row => selectedRow query.columns [] (cut query.columns row)) =
        selectColumns query.columns [] rows :=
      List.map_congr_left fun row member => selectedRow_congr fun column selected =>
        lookup?_cut_of_not_lost selected (kept row member column selected)
    rw [← same]
    rfl
  · intro apart same row member
    have alike : rows.map (fun row => selectedRow query.columns [] (cut query.columns row)) =
        rows.map (selectedRow query.columns []) :=
      Except.ok.inj (Outcome.finished.inj (Prod.mk.inj same).1)
    exact (selectedRow_cut_eq_iff apart).mp (List.map_inj_left.mp alike row member)

/-- **All documents of a store have identifiers**, whatever was done since it was empty. -/
theorem isIdentified_of_run {α : Type} (program : Program Native.interface α)
    (identifiers : IdentifierSource)
    (visible : (program.run Server.driver ⟨identifiers, Server.empty⟩).2.state.visible? scope =
      some store) : store.IsIdentified := by
  have calls : program.Calls fun _ => True := Program.calls_of_forall (fun _ => trivial) program
  refine invariant_of_visible? (calls.run (holds_answer ?_) ?_) visible
  · exact fun call _ _ identified => isIdentified_answer call identified
  · exact ⟨fun _ => nofun, fun _ => nofun⟩

end Selects

/-- A person whose city stands in a nested document. -/
def residents : Store :=
  [("people",
    [[("_id", .objectId ⟨1⟩), ("name", .string "Ann"), ("address", .document [("city", .string "Rome")])]])]

/-- The city is shown beside the document that it stands in, and a name under its alias. -/
def located : Query :=
  { Query.ofTable "people" with
    columns := [⟨"name", some "who"⟩, Column.named "address.city", Column.named "address"] }

/-- None of these columns loses its value. -/
theorem select_eq_cut_located :
    (engine.select .connection located).run Server.driver ⟨⟨0, 0⟩, ⟨residents, none, 0⟩⟩ =
      (.finished (.ok [[("who", .string "Ann"), ("address.city", .string "Rome"),
        ("address", .document [("city", .string "Rome")])]]), ⟨⟨0, 0⟩, ⟨residents, none, 0⟩⟩) := by
  have identified : residents.IsIdentified := by
    intro name document member
    by_cases same : "people" = name
    · subst same
      obtain rfl := List.mem_singleton.mp member
      rfl
    · simp [residents, Store.documents, Store.get?, same] at member
  obtain ⟨result, whole, _, shown⟩ := @select_eq_cut .connection residents located
    ⟨⟨0, 0⟩, ⟨residents, none, 0⟩⟩ rfl identified rfl (by decide)
  have rows : result = .ok [[("id", .string "000000000000000000000001"), ("name", .string "Ann"),
      ("address", .document [("city", .string "Rome")])]] :=
    Outcome.finished.inj (Prod.mk.inj (whole.symm.trans rfl)).1
  refine (shown _ rows).1 fun row _ column selected lost => ?_
  simp only [located, List.mem_cons, List.not_mem_nil, or_false] at selected
  rcases selected with rfl | rfl | rfl
  · exact not_lost_of_undotted rfl lost
  · exact Bool.noConfusion (lost.unnamed "address" rfl)
  · exact not_lost_of_undotted rfl lost

/-- The city is lost if nothing but its path is selected. -/
theorem select_ne_cut_residents :
    (engine.select .connection
        { Query.ofTable "people" with columns := [Column.named "address.city"] }).run Server.driver
          ⟨⟨0, 0⟩, ⟨residents, none, 0⟩⟩ = (.finished (.ok [[]]), ⟨⟨0, 0⟩, ⟨residents, none, 0⟩⟩) ∧
      ∃ rows, (engine.select .connection (Query.ofTable "people")).run Server.driver
          ⟨⟨0, 0⟩, ⟨residents, none, 0⟩⟩ = (.finished (.ok rows), ⟨⟨0, 0⟩, ⟨residents, none, 0⟩⟩) ∧
        selectColumns [Column.named "address.city"] [] rows =
          [[("address.city", .string "Rome")]] := by
  exact ⟨rfl, _, rfl, rfl⟩

end Polystore
