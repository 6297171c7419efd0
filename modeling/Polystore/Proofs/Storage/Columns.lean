/-
**Columns that are read and written again.**

Many kinds of values share a storage class, so a value that was written is not always the one that is
read, but it is stored as the one that is read would be.

* `read_eq_ok_iff`: the columns that are read are those of stored values, each as its value;
* `exists_read_iff`: the values that columns are read as are those that storing leaves as they are;
* `columns_stable`: reading and writing again changes no column, no stored value and no row.
-/

import Polystore.Sql.Storage

namespace Polystore

/-- The text of UTF-8 bytes. -/
theorem Text.fromUTF8?_eq_some_iff {bytes : List UInt8} {text : String} :
    String.fromUTF8? bytes.toByteArray = some text ↔ bytes = Text.bytes text := by
  unfold String.fromUTF8?
  constructor
  · intro found
    split at found
    · obtain rfl := Option.some.inj found
      exact List.toList_data_toByteArray.symm
    · cases found
  · rintro rfl
    have whole : (Text.bytes text).toByteArray = text.toByteArray :=
      ByteArray.ext (Array.toList_inj.mp List.toList_data_toByteArray)
    rw [whole, dif_pos text.isValidUTF8]
    rfl

namespace Sql

/-! ### Single columns -/

section Columns

variable {column : StoredColumn} {stored : StoredValue} {value : Value}

/-- **The columns of stored values.** -/
theorem stored_eq_ok_iff : column.stored = .ok stored ↔ stored.column = column := by
  cases column with
  | text bytes =>
    show StoredValue.ofTextBytes bytes = .ok stored ↔ stored.column = .text bytes
    unfold StoredValue.ofTextBytes
    constructor
    · intro found
      split at found
      · rename_i content read
        obtain rfl := Except.ok.inj found
        exact congrArg StoredColumn.text (Text.fromUTF8?_eq_some_iff.mp read).symm
      · cases found
    · intro same
      cases stored <;> cases same
      rw [Text.fromUTF8?_eq_some_iff.mpr rfl]
  | _ => cases stored <;> simp [StoredColumn.stored, StoredValue.column, eq_comm]

/-- **What columns are read as**: the value of the stored value that comes back in them. -/
theorem read_eq_ok_iff :
    column.read = .ok value ↔ ∃ stored : StoredValue, stored.column = column ∧ stored.value = value := by
  unfold StoredColumn.read
  constructor
  · intro found
    cases read : column.stored with
    | error error =>
      rw [read] at found
      cases found
    | ok stored =>
      rw [read] at found
      exact ⟨stored, stored_eq_ok_iff.mp read, Except.ok.inj found⟩
  · rintro ⟨stored, same, rfl⟩
    rw [stored_eq_ok_iff.mpr same]
    rfl

/-- What a stored value is read as is stored as this value. -/
theorem ofValue_value (stored : StoredValue) : StoredValue.ofValue stored.value = stored := by
  cases stored <;> rfl

/-- **Only values that storing leaves as they are come out of columns.** -/
theorem exists_read_iff :
    (∃ column : StoredColumn, column.read = .ok value) ↔ (StoredValue.ofValue value).value = value := by
  constructor
  · rintro ⟨column, found⟩
    obtain ⟨stored, -, rfl⟩ := read_eq_ok_iff.mp found
    rw [ofValue_value]
  · exact fun same => ⟨_, read_eq_ok_iff.mpr ⟨_, rfl, same⟩⟩

theorem column_ofValue (found : column.read = .ok value) :
    (StoredValue.ofValue value).column = column := by
  obtain ⟨stored, rfl, rfl⟩ := read_eq_ok_iff.mp found
  rw [ofValue_value]

/-- No column is read as undefined. -/
theorem isUndefined_of_read (found : column.read = .ok value) : value.isUndefined = false := by
  obtain ⟨stored, -, rfl⟩ := read_eq_ok_iff.mp found
  cases stored <;> rfl

end Columns

/-! ### Rows -/

/-- What is saved of a row that was read, behind fields that were read before. -/
theorem savedRow_readRow {row : List (String × StoredColumn)} {written document : Document}
    (found : readRow written row = .ok document)
    (distinct : (Document.keys written ++ row.map Prod.fst).Nodup) :
    savedRow document = savedRow written ++ row := by
  induction row generalizing written with
  | nil =>
    obtain rfl := Except.ok.inj found
    exact (List.append_nil _).symm
  | cons field rest hypothesis =>
    obtain ⟨name, column⟩ := field
    obtain ⟨value, one, others⟩ := bind_eq_ok.mp found
    rw [List.map_cons, List.append_cons] at distinct
    have fresh : name ∉ Document.keys written := fun member =>
      (List.nodup_append.mp (List.nodup_append.mp distinct).1).2.2 name member name List.mem_cons_self rfl
    rw [Document.insert_of_not_mem_keys fresh] at others
    have keys : Document.keys (written ++ [(name, value)]) = Document.keys written ++ [name] :=
      List.map_append
    rw [hypothesis others (keys ▸ distinct)]
    have defined : Document.withoutUndefined [(name, value)] = [(name, value)] := by
      simp [Document.withoutUndefined, isUndefined_of_read one]
    have saved : savedRow (written ++ [(name, value)]) = savedRow written ++ [(name, column)] := by
      unfold savedRow
      rw [Document.withoutUndefined, List.filter_append, List.map_append]
      exact congrArg _ (by rw [← Document.withoutUndefined, defined, List.map_singleton, column_ofValue one])
    rw [saved, List.append_assoc, List.singleton_append]

/-- **Values do not drift between rows and documents.** What a column is read as is stored in this very
column. Whatever a value is stored as, nested ones included, is read, and what it is read as is stored
alike. So a row with names of its own that is read is saved as the same row. -/
theorem columns_stable :
    (∀ (column : StoredColumn) (value : Value), column.read = .ok value →
      (StoredValue.ofValue value).column = column) ∧
    (∀ value : Value, ∃ shown : Value, (StoredValue.ofValue value).column.read = .ok shown ∧
      StoredValue.ofValue shown = StoredValue.ofValue value) ∧
    ∀ (row : List (String × StoredColumn)) (document : Document),
      readRow [] row = .ok document → (row.map Prod.fst).Nodup → savedRow document = row := by
  refine ⟨fun column value found => column_ofValue found, fun value => ?_, fun row document found names => ?_⟩
  · exact ⟨_, read_eq_ok_iff.mpr ⟨_, rfl, rfl⟩, ofValue_value _⟩
  · exact savedRow_readRow found names

/-- A row whose texts are a name with an accent and a stored list. -/
def ownerRow : List (String × StoredColumn) :=
  [("name", .text [0x5a, 0x6f, 0xc3, 0xab]), ("tags", .text [0x5b, 0x32, 0x5d]), ("age", .integer 40)]

theorem columns_stable_owner :
    (StoredColumn.text [0xc3, 0xab]).read = .ok (.string "ë") ∧
    (StoredValue.ofValue (.string "ë")).column = .text [0xc3, 0xab] ∧
    readRow [] ownerRow =
      .ok [("name", .string "Zoë"), ("tags", .string "[2]"), ("age", .int64 40)] ∧
    (ownerRow.map Prod.fst).Nodup ∧
    savedRow [("name", .string "Zoë"), ("tags", .string "[2]"), ("age", .int64 40)] = ownerRow := by
  have accent : (StoredColumn.text [0xc3, 0xab]).read = .ok (.string "ë") :=
    read_eq_ok_iff.mpr ⟨.text "ë", by decide, rfl⟩
  have read : readRow [] ownerRow =
      .ok [("name", .string "Zoë"), ("tags", .string "[2]"), ("age", .int64 40)] := by
    have name : (StoredColumn.text [0x5a, 0x6f, 0xc3, 0xab]).read = .ok (.string "Zoë") :=
      read_eq_ok_iff.mpr ⟨.text "Zoë", by decide, rfl⟩
    have tags : (StoredColumn.text [0x5b, 0x32, 0x5d]).read = .ok (.string "[2]") :=
      read_eq_ok_iff.mpr ⟨.text "[2]", by decide, rfl⟩
    simp only [ownerRow, readRow, name, tags]
    rfl
  have names : (ownerRow.map Prod.fst).Nodup := by decide
  exact ⟨accent, columns_stable.1 _ _ accent, read, names, columns_stable.2.2 _ _ read names⟩

end Sql

end Polystore
