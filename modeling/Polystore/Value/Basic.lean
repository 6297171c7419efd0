/-
**Values and documents.**

A document is a list of fields in the order in which they were first written. Every operation keeps
its keys distinct: `Document.insert` overwrites a key in its place, `Document.erase` closes the gap.

* `Document.get?` reads a field, `Document.atPath?` a dotted path through nested documents, and
  `Document.lookup?` a path whose whole text may also be a key;
* `Document.hasId`, `Document.withoutId` and `Document.withoutUndefined` serve the `id` field that
  every row shows.
-/

import Polystore.Calendar
import Polystore.Number.Decimal128
import Polystore.Number.Layout
import Polystore.ObjectId
import Polystore.Text.Segments

namespace Polystore

/-- A stored value. -/
inductive Value where
  | null
  | undefined
  | boolean (flag : Bool)
  | int32 (number : Int32)
  | int64 (number : Int64)
  | double (number : Binary64)
  | string (text : String)
  | symbol (text : String)
  | objectId (identifier : ObjectId)
  /-- An instant in milliseconds since the start of 1970. -/
  | dateTime (millis : Int64)
  | binary (subtype : UInt8) (bytes : List UInt8)
  | timestamp (time increment : UInt32)
  | regex (pattern options : String)
  | javaScript (code : String)
  | javaScriptWithScope (code : String) (scope : List (String × Value))
  | decimal (number : Decimal128)
  | dbPointer (collection : String) (identifier : ObjectId)
  | minKey
  | maxKey
  | array (items : List Value)
  | document (fields : List (String × Value))
  deriving Repr, Inhabited

/-- A record: fields in order, with distinct keys. -/
abbrev Document := List (String × Value)

/-- The field under which a row shows its identifier. -/
def idField : String := "id"

namespace Value

/-- Whether the value counts as absent where a key or an identifier is wanted. -/
def isNullish : Value → Bool
  | null | undefined => true
  | _ => false

def isUndefined : Value → Bool
  | undefined => true
  | _ => false

def isNull : Value → Bool
  | null => true
  | _ => false

/-- The name of the kind of a value, as messages give it. -/
def kindName : Value → String
  | null => "Null"
  | undefined => "Undefined"
  | boolean _ => "Boolean"
  | int32 _ => "Int32"
  | int64 _ => "Int64"
  | double _ => "Double"
  | string _ => "String"
  | symbol _ => "Symbol"
  | objectId _ => "ObjectId"
  | dateTime _ => "DateTime"
  | binary _ _ => "Binary"
  | timestamp _ _ => "Timestamp"
  | regex _ _ => "RegularExpression"
  | javaScript _ => "JavaScriptCode"
  | javaScriptWithScope _ _ => "JavaScriptCodeWithScope"
  | decimal _ => "Decimal128"
  | dbPointer _ _ => "DbPointer"
  | minKey => "MinKey"
  | maxKey => "MaxKey"
  | array _ => "Array"
  | document _ => "EmbeddedDocument"

end Value

namespace Document

/-- The value under a key. -/
def get? (key : String) : Document → Option Value
  | [] => none
  | (name, value) :: rest => if name = key then some value else get? key rest

def keys (document : Document) : List String := document.map Prod.fst

def contains (key : String) (document : Document) : Bool := (get? key document).isSome

/-- Writes a value under a key: in the place of the key if it is there, else at the end. -/
def insert (key : String) (value : Value) : Document → Document
  | [] => [(key, value)]
  | (name, old) :: rest =>
    if name = key then (name, value) :: rest else (name, old) :: insert key value rest

/-- Removes a key and keeps the order of the other fields. -/
def erase (key : String) (document : Document) : Document := document.filter (·.1 ≠ key)

/-- Writes fields one after the other. -/
def extend (document fields : Document) : Document :=
  fields.foldl (fun written field => insert field.1 field.2 written) document

/-- The document of a list of fields, where a repeated key overwrites the first one. -/
def ofFields (fields : List (String × Value)) : Document := extend [] fields

/-- The value under a key unless it counts as absent. -/
def present? (key : String) (document : Document) : Option Value :=
  (get? key document).filter (!·.isNullish)

/-- Whether there is an identifier that is not null. -/
def hasId (document : Document) : Bool := (present? idField document).isSome

/-- The identifier, if it is a text. -/
def canonicalId? (document : Document) : Option String :=
  match get? idField document with
  | some (.string text) => some text
  | _ => none

def withoutId (document : Document) : Document := erase idField document

/-- The document without the fields whose value is undefined. -/
def withoutUndefined (document : Document) : Document := document.filter (!·.2.isUndefined)

/-- The value that a list of keys leads to through nested documents. -/
def atSegments? : List String → Document → Option Value
  | [], _ => none
  | [key], document => get? key document
  | key :: rest, document =>
    match get? key document with
    | some (.document inner) => atSegments? rest inner
    | _ => none

/-- The value at a dotted path. -/
def atPath? (path : String) (document : Document) : Option Value :=
  atSegments? (Text.segmentsOf '.' path) document

/-- The value at a list of segments, where at each level the rest of the path may be one key. -/
def lookupSegments? : List String → Document → Option Value
  | [], _ => none
  | key :: rest, document =>
    match get? (Text.joined "." (key :: rest)) document with
    | some value => some value
    | none =>
      if rest.isEmpty then none
      else
        match get? key document with
        | some (.document inner) => lookupSegments? rest inner
        | _ => none

/-- The value under a dotted path, or under the path as one key. -/
def lookup? (path : String) (document : Document) : Option Value :=
  lookupSegments? (Text.segmentsOf '.' path) document

@[simp] theorem get?_nil (key : String) : get? key [] = none := rfl

/-- A path without a dot is a key. -/
theorem atPath?_eq_get? {path : String} (undotted : Text.hasChar '.' path = false)
    (document : Document) : atPath? path document = get? path document := by
  rw [atPath?, Text.segmentsOf_eq_singleton undotted, atSegments?]

/-- A path without a dot is looked up as a key. -/
theorem lookup?_eq_get? {path : String} (undotted : Text.hasChar '.' path = false)
    (document : Document) : lookup? path document = get? path document := by
  have whole : Text.joined "." [path] = path := by
    rw [← Text.segmentsOf_eq_singleton undotted]
    exact Text.joined_segmentsOf '.' path
  rw [lookup?, Text.segmentsOf_eq_singleton undotted, lookupSegments?, whole]
  cases get? path document <;> rfl

/-- A path leads to the same value in documents with the same first field on it. -/
theorem atPath?_congr {path : String} {left right : Document}
    (same : ∀ key ∈ (Text.segmentsOf '.' path).head?, get? key left = get? key right) :
    atPath? path left = atPath? path right := by
  unfold atPath?
  match Text.segmentsOf '.' path, same with
  | [], _ => rfl
  | [key], same => exact same key rfl
  | key :: next :: rest, same => rw [atSegments?, atSegments?, same key rfl] <;> nofun

@[simp] theorem atPath?_nil (path : String) : atPath? path [] = none := by
  unfold atPath?
  match Text.segmentsOf '.' path with
  | [] | [_] | _ :: _ :: _ => rfl

/-- A written key reads back. -/
theorem get?_insert_self (key : String) (value : Value) (document : Document) :
    get? key (insert key value document) = some value := by
  induction document with
  | nil => simp [insert, get?]
  | cons field rest hypothesis =>
    obtain ⟨name, old⟩ := field
    by_cases equal : name = key <;> simp [insert, get?, equal, hypothesis]

/-- Writing a key leaves every other key alone. -/
theorem get?_insert_of_ne {key other : String} (different : other ≠ key) (value : Value)
    (document : Document) : get? other (insert key value document) = get? other document := by
  induction document with
  | nil => simp [insert, get?, Ne.symm different]
  | cons field rest hypothesis =>
    obtain ⟨name, old⟩ := field
    by_cases equal : name = key
    · subst equal
      simp [insert, get?, Ne.symm different]
    · by_cases same : name = other
      · subst same
        simp [insert, get?, equal]
      · simp [insert, get?, equal, same, hypothesis]

/-- A field of a written document is the written one or was there before. -/
theorem mem_of_mem_insert {key : String} {value : Value} {document : Document}
    {field : String × Value} (member : field ∈ insert key value document) :
    field = (key, value) ∨ field ∈ document := by
  induction document with
  | nil => exact .inl (List.mem_singleton.mp member)
  | cons first rest hypothesis =>
    obtain ⟨name, old⟩ := first
    rw [insert] at member
    split at member
    · rename_i same
      subst same
      exact (List.mem_cons.mp member).imp id (List.mem_cons_of_mem _)
    · rcases List.mem_cons.mp member with rfl | later
      · exact .inr List.mem_cons_self
      · exact (hypothesis later).imp id (List.mem_cons_of_mem _)

/-- Written fields leave every other key alone. -/
theorem get?_extend_of_none {key : String} {fields : Document} (absent : get? key fields = none)
    (document : Document) : get? key (extend document fields) = get? key document := by
  induction fields generalizing document with
  | nil => rfl
  | cons field rest hypothesis =>
    obtain ⟨name, value⟩ := field
    rw [get?] at absent
    split at absent
    · cases absent
    · rename_i different
      show get? key (extend (insert name value document) rest) = _
      rw [hypothesis absent, get?_insert_of_ne (Ne.symm different)]

/-- A removed key is absent. -/
theorem get?_erase_self (key : String) (document : Document) : get? key (erase key document) = none := by
  induction document with
  | nil => rfl
  | cons field rest hypothesis =>
    obtain ⟨name, old⟩ := field
    by_cases equal : name = key
    · simpa [erase, equal] using hypothesis
    · simpa [erase, get?, equal] using hypothesis

/-- Removing a key leaves every other key alone. -/
theorem get?_erase_of_ne {key other : String} (different : other ≠ key) (document : Document) :
    get? other (erase key document) = get? other document := by
  induction document with
  | nil => rfl
  | cons field rest hypothesis =>
    obtain ⟨name, old⟩ := field
    by_cases equal : name = key
    · subst equal
      simpa [erase, get?, Ne.symm different] using hypothesis
    · by_cases same : name = other
      · simp [erase, get?, same, different]
      · simpa [erase, get?, equal, same] using hypothesis

theorem mem_of_get? {document : Document} {key : String} {value : Value}
    (found : get? key document = some value) : (key, value) ∈ document := by
  induction document with
  | nil => cases found
  | cons field rest hypothesis =>
    obtain ⟨name, first⟩ := field
    rw [get?] at found
    split at found
    · rename_i same
      obtain rfl := Option.some.inj found
      rw [same]
      exact List.mem_cons_self
    · exact List.mem_cons_of_mem _ (hypothesis found)

theorem contains_iff {document : Document} {key : String} :
    contains key document = true ↔ key ∈ keys document := by
  induction document with
  | nil => simp [contains, keys]
  | cons field rest hypothesis =>
    obtain ⟨name, first⟩ := field
    by_cases same : name = key
    · simp [contains, get?, keys, same]
    · simp only [contains, keys, get?, if_neg same, List.map_cons, List.mem_cons, Ne.symm same,
        false_or] at hypothesis ⊢
      exact hypothesis

theorem exists_get?_of_mem_keys {document : Document} {key : String}
    (member : key ∈ keys document) :
    ∃ value, get? key document = some value :=
  Option.isSome_iff_exists.mp (contains_iff.mpr member)

/-- Where no key repeats, every field is the one that its key reads. -/
theorem get?_of_mem {document : Document} {key : String} {value : Value}
    (distinct : (keys document).Nodup) (member : (key, value) ∈ document) :
    get? key document = some value := by
  induction document with
  | nil => cases member
  | cons field rest hypothesis =>
    obtain ⟨name, first⟩ := field
    obtain ⟨fresh, others⟩ := List.nodup_cons.mp distinct
    rcases List.mem_cons.mp member with equal | inside
    · obtain ⟨rfl, rfl⟩ := Prod.mk.inj equal
      simp [get?]
    · have different : name ≠ key := by
        rintro rfl
        exact fresh (List.mem_map.mpr ⟨_, inside, rfl⟩)
      rw [get?, if_neg different]
      exact hypothesis others inside

/-- A written field with a key of its own is read back. -/
theorem get?_extend_of_some {key : String} {value : Value} {fields : Document}
    (distinct : (keys fields).Nodup) (found : get? key fields = some value) (document : Document) :
    get? key (extend document fields) = some value := by
  induction fields generalizing document with
  | nil => cases found
  | cons field rest hypothesis =>
    obtain ⟨name, first⟩ := field
    obtain ⟨fresh, others⟩ := List.nodup_cons.mp distinct
    show get? key (extend (insert name first document) rest) = _
    rw [get?] at found
    split at found
    · rename_i same
      subst same
      have absent : get? name rest = none :=
        Option.not_isSome_iff_eq_none.mp fun present => fresh (contains_iff.mp present)
      rw [get?_extend_of_none absent, get?_insert_self, found]
    · exact hypothesis others found (insert name first document)

/-- A new key is written at the end. -/
theorem insert_of_not_mem_keys {key : String} {document : Document} (absent : key ∉ keys document)
    (value : Value) : insert key value document = document ++ [(key, value)] := by
  induction document with
  | nil => rfl
  | cons field rest hypothesis =>
    obtain ⟨name, old⟩ := field
    obtain ⟨other, later⟩ := not_or.mp (mt List.mem_cons.mpr absent)
    rw [insert, if_neg fun same => other same.symm, hypothesis later]
    rfl

/-- The keys after a write: unchanged, or with the new one at the end. -/
theorem keys_insert (key : String) (value : Value) (document : Document) :
    keys (insert key value document) =
      if key ∈ keys document then keys document else keys document ++ [key] := by
  induction document with
  | nil => simp [insert, keys]
  | cons field rest hypothesis =>
    obtain ⟨name, old⟩ := field
    simp only [keys] at hypothesis
    by_cases equal : name = key
    · simp [insert, keys, equal]
    · by_cases member : key ∈ rest.map Prod.fst <;>
        simp_all [insert, keys, Ne.symm equal]

/-- A write keeps keys distinct. -/
theorem nodup_keys_insert {document : Document} (distinct : (keys document).Nodup) (key : String)
    (value : Value) : (keys (insert key value document)).Nodup := by
  rw [keys_insert]
  split
  · exact distinct
  · rename_i absent
    refine List.nodup_append.2 ⟨distinct, by simp, ?_⟩
    intro name member other single equal
    simp only [List.mem_singleton] at single
    exact absent (single ▸ equal ▸ member)

end Document

end Polystore
