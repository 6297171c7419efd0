/-
**How rows are identified on the two kinds of stores.**

Rows show their identifier as a text under `id`. Document stores keep an object identifier under
`_id`; `ObjectIdentifier` goes both ways between the two forms. SQL tables keep a text under `id`;
`TextIdentifier` accepts any text that is not blank and shows whole numbers as texts.
-/

import Polystore.Identifier.Source
import Polystore.Query.Basic
import Polystore.Value.Display

namespace Polystore

namespace ObjectIdentifier

/-- The field under which a document store keeps the identifier. -/
def nativeField : String := "_id"

/-- The object identifier that a text names. -/
def parse (text : String) : Except DatabaseError ObjectId :=
  match ObjectId.ofHex? text with
  | some identifier => .ok identifier
  | none => .error (.invalidIdentifier ("'" ++ text ++ "' is not a valid object id"))

/-- A stored identifier as rows show it: as a text, unless it is null. -/
def canonicalValue : Value → Value
  | .objectId identifier => .string identifier.hex
  | .string text => .string text
  | .null => .null
  | other => .string other.display

/-- A shown identifier as the store keeps it. -/
def nativeValue : Value → Except DatabaseError Value
  | .string text => (parse text).map .objectId
  | .objectId identifier => .ok (.objectId identifier)
  | other => .error (.invalidIdentifier ("expected a string id, got " ++ other.display))

/-- A stored document as a row: its identifier in front, under `id`. -/
def canonicalDocument (document : Document) : Document :=
  match Document.get? nativeField document with
  | some native =>
    (idField, canonicalValue native) :: Document.erase idField (Document.erase nativeField document)
  | none => document

/-- A row as the store keeps it: its identifier in front, under `_id`, unless it is absent. A field
`_id` of the row itself takes the place of that identifier. -/
def nativeDocument (document : Document) : Except DatabaseError Document :=
  match Document.present? idField document with
  | some shown => do
    let native ← nativeValue shown
    return Document.extend [(nativeField, native)] (Document.erase idField document)
  | none => .ok (Document.erase idField document)

/-- A row with a new identifier in front. -/
def identified (identifier : ObjectId) (document : Document) : Document :=
  Document.extend [(nativeField, .objectId identifier)] (Document.erase idField document)

/-- A row shows the identifier of its document. -/
theorem get?_id_canonicalDocument {document : Document} {native : Value}
    (identified : Document.get? nativeField document = some native) :
    Document.get? idField (canonicalDocument document) = some (canonicalValue native) := by
  rw [canonicalDocument, identified]
  rfl

/-- A row has no field for the stored form of its identifier. -/
theorem get?_native_canonicalDocument (document : Document) :
    Document.get? nativeField (canonicalDocument document) = none := by
  unfold canonicalDocument
  cases identified : Document.get? nativeField document with
  | none => exact identified
  | some native =>
    show Document.get? nativeField (Document.erase idField _) = none
    rw [Document.get?_erase_of_ne (by decide)]
    exact Document.get?_erase_self _ _

/-- Every other field of a row is the one of its document. -/
theorem get?_canonicalDocument_of_ne {key : String} (other : key ≠ idField)
    (different : key ≠ nativeField) (document : Document) :
    Document.get? key (canonicalDocument document) = Document.get? key document := by
  unfold canonicalDocument
  cases Document.get? nativeField document with
  | none => rfl
  | some native =>
    show Document.get? key ((idField, _) :: Document.erase idField _) = _
    rw [Document.get?, if_neg (Ne.symm other), Document.get?_erase_of_ne other,
      Document.get?_erase_of_ne different]

end ObjectIdentifier

namespace TextIdentifier

/-- The field under which a table keeps the identifier. -/
def nativeField : String := idField

/-- Accepts every text that is not blank. -/
def parse (text : String) : Except DatabaseError String :=
  if Text.isAllBlank text then .error (.invalidIdentifier "empty id") else .ok text

/-- A row with a whole number for an identifier shows it as a text. -/
def canonicalDocument (document : Document) : Document :=
  match Document.get? idField document with
  | some (.int32 number) => Document.insert idField (.string (toString number.toInt)) document
  | some (.int64 number) => Document.insert idField (.string (toString number.toInt)) document
  | _ => document

/-- Checks the identifier of a row, which has to be a text or absent. -/
def nativeDocument (document : Document) : Except DatabaseError Document :=
  match Document.get? idField document with
  | some (.string text) => (parse text).map fun _ => document
  | some value =>
    if value.isNullish then .ok document
    else .error (.invalidIdentifier ("expected a string id, got " ++ value.display))
  | none => .ok document

/-- A row with a new identifier in front. -/
def identified (identifier : String) (document : Document) : Document :=
  (idField, .string identifier) :: Document.erase idField document

end TextIdentifier

end Polystore
