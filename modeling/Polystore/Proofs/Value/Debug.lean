/-
**The descriptions of values, read apart.**

The name that a description begins with tells the kind of the value, and what stands behind the name its
content, up to what is one for all that print alike. No description is the beginning of another one that goes
on otherwise than with a letter or a digit; so the items of arrays and the fields of documents are told from
each other.

* `Value.body_inj_of_isDiscrete`: values without further values;
* `Value.tells_debug`: all values, by recursion;
* `Value.debugList_eq_iff`: lists of values have one text exactly if they print alike.
-/

import Polystore.Proofs.Calendar.Displayed
import Polystore.Proofs.Number.Texts
import Polystore.Proofs.Value.Described
import Polystore.Proofs.Value.Printed

namespace Polystore

open Text

variable {left right : List Char} {value other : Value}

/-! ### Kinds and contents -/

/-- The names of the kinds of values, in their order. -/
def Value.debugNames : List String :=
  ["Null", "Undefined", "Boolean", "Int32", "Int64", "Double", "String", "Symbol", "ObjectId", "DateTime",
    "Binary", "Timestamp", "Regex", "JavaScriptCode", "JavaScriptCodeWithScope", "Decimal128", "DbPointer",
    "MinKey", "MaxKey", "Array", "Document"]

/-- The kind of a value is told by its name. -/
theorem Value.idxOf_debugName (value : Value) : debugNames.idxOf value.debugName = value.ctorIdx := by
  cases value <;> rfl

theorem ObjectId.hex_injective {identifier other : ObjectId} (same : identifier.hex = other.hex) :
    identifier = other :=
  Option.some.inj (by rw [← ofHex?_hex identifier, same, ofHex?_hex])

theorem Value.tells_objectId (identifier : ObjectId) : Tells ObjectId.debug id identifier := by
  intro other left right _ _ same
  simp only [ObjectId.debug, String.toList_append, List.append_assoc] at same
  obtain ⟨texts, behind⟩ :=
    bracketed_told_append_inj (tells_quoted _) (List.append_cancel_left same)
  exact ⟨ObjectId.hex_injective texts, behind⟩

/-- Values without further values are told by what stands behind their name. -/
theorem Value.body_inj_of_isDiscrete (discrete : value.isDiscrete = true)
    (kind : value.ctorIdx = other.ctorIdx)
    (same : value.debugBody.toList ++ left = other.debugBody.toList ++ right) :
    value = other ∧ left = right := by
  -- Values of different kinds are out by their kinds; only then are the contents compared.
  cases value with
  | null =>
    cases other with
    | null => exact ⟨rfl, same⟩
    | _ => cases kind
  | undefined =>
    cases other with
    | undefined => exact ⟨rfl, same⟩
    | _ => cases kind
  | minKey =>
    cases other with
    | minKey => exact ⟨rfl, same⟩
    | _ => cases kind
  | maxKey =>
    cases other with
    | maxKey => exact ⟨rfl, same⟩
    | _ => cases kind
  | boolean flag =>
    cases other with
    | boolean also =>
      rw [debugBody, debugBody] at same
      have plain (flag : Bool) : isPlain (toString flag) = true := by
        cases flag <;> rfl
      obtain ⟨texts, behind⟩ := bracketed_append_inj (plain flag) (plain also) same
      have flags : ∀ flag also : Bool, toString flag = toString also → flag = also := by decide
      exact ⟨congrArg _ (flags flag also texts), behind⟩
    | _ => cases kind
  | int32 number =>
    cases other with
    | int32 also =>
      rw [debugBody, debugBody] at same
      obtain ⟨texts, behind⟩ := bracketed_append_inj (isPlain_int _) (isPlain_int _) same
      exact ⟨congrArg _ (Int32.toInt_inj.mp (toString_int_inj texts)), behind⟩
    | _ => cases kind
  | int64 number =>
    cases other with
    | int64 also =>
      rw [debugBody, debugBody] at same
      obtain ⟨texts, behind⟩ := bracketed_append_inj (isPlain_int _) (isPlain_int _) same
      exact ⟨congrArg _ (Int64.toInt_inj.mp (toString_int_inj texts)), behind⟩
    | _ => cases kind
  | string text =>
    cases other with
    | string also =>
      rw [debugBody, debugBody] at same
      obtain ⟨texts, behind⟩ := bracketed_told_append_inj (tells_quoted _) same
      exact ⟨congrArg _ texts, behind⟩
    | _ => cases kind
  | symbol text =>
    cases other with
    | symbol also =>
      rw [debugBody, debugBody] at same
      obtain ⟨texts, behind⟩ := bracketed_told_append_inj (tells_quoted _) same
      exact ⟨congrArg _ texts, behind⟩
    | _ => cases kind
  | javaScript text =>
    cases other with
    | javaScript also =>
      rw [debugBody, debugBody] at same
      obtain ⟨texts, behind⟩ := bracketed_told_append_inj (tells_quoted _) same
      exact ⟨congrArg _ texts, behind⟩
    | _ => cases kind
  | objectId identifier =>
    cases other with
    | objectId also =>
      rw [debugBody, debugBody] at same
      obtain ⟨texts, behind⟩ := bracketed_told_append_inj (tells_quoted _) same
      exact ⟨congrArg _ (ObjectId.hex_injective texts), behind⟩
    | _ => cases kind
  | dateTime millis =>
    cases other with
    | dateTime also =>
      rw [debugBody, debugBody] at same
      obtain ⟨texts, behind⟩ :=
        bracketed_append_inj (Calendar.isPlain_display _) (Calendar.isPlain_display _) same
      exact ⟨congrArg _ (Int64.toInt_inj.mp (Calendar.display_injective texts)), behind⟩
    | _ => cases kind
  | binary subtype bytes =>
    cases other with
    | binary =>
      rw [debugBody, debugBody] at same
      obtain ⟨⟨subtypes, contents⟩, behind⟩ :=
        described_append_inj (Binary.tells_subtypeText subtype) (Binary.tells_bytesText bytes) same
      exact ⟨congrArg₂ _ subtypes contents, behind⟩
    | _ => cases kind
  | timestamp time increment =>
    cases other with
    | timestamp =>
      rw [debugBody, debugBody] at same
      obtain ⟨⟨times, increments⟩, behind⟩ :=
        described_append_inj (tells_digits time.toNat) (tells_digits increment.toNat) same
      exact ⟨congrArg₂ _ (UInt32.toNat_inj.mp times) (UInt32.toNat_inj.mp increments), behind⟩
    | _ => cases kind
  | regex pattern options =>
    cases other with
    | regex =>
      rw [debugBody, debugBody] at same
      obtain ⟨⟨patterns, choices⟩, behind⟩ :=
        described_append_inj (tells_quoted pattern) (tells_quoted options) same
      exact ⟨congrArg₂ _ patterns choices, behind⟩
    | _ => cases kind
  | decimal number =>
    cases other with
    | decimal =>
      rw [debugBody, debugBody] at same
      obtain ⟨texts, behind⟩ := bracketed_append_inj (isPlain_decimal _) (isPlain_decimal _) same
      exact ⟨congrArg _ (Decimal128.text_injective texts), behind⟩
    | _ => cases kind
  | dbPointer collection identifier =>
    cases other with
    | dbPointer =>
      rw [debugBody, debugBody] at same
      obtain ⟨⟨collections, identifiers⟩, behind⟩ :=
        described_append_inj (tells_quoted collection) (tells_objectId identifier) same
      exact ⟨congrArg₂ _ collections identifiers, behind⟩
    | _ => cases kind
  | double | array | document | javaScriptWithScope => cases discrete

/-! ### Whole values -/

theorem Value.alphanumeric_debugName (value : Value) :
    ∀ character ∈ value.debugName.toList, character.isAlphanum = true := by
  have all : ∀ name ∈ debugNames, name.toList.all Char.isAlphanum = true := by decide +kernel
  have known : value.debugName ∈ debugNames := by
    cases value <;> simp [debugName, kindName, debugNames]
  exact List.all_eq_true.mp (all _ known)

theorem Value.ends_debugBody (value : Value) {behind : List Char} (ends : Ends behind) :
    Ends (value.debugBody.toList ++ behind) := by
  cases value with
  | null | undefined | minKey | maxKey => exact ends
  | binary | timestamp | regex | javaScriptWithScope | dbPointer =>
    rw [debugBody]
    exact ends_described _ _ _ _ _
  | _ =>
    rw [debugBody]
    exact ends_bracketed _ _

/-- The name is told from what stands behind it, and tells the kind. -/
theorem Value.debug_append_split (ends : Ends left) (stops : Ends right)
    (same : value.debug.toList ++ left = other.debug.toList ++ right) :
    value.ctorIdx = other.ctorIdx ∧ value.debugBody.toList ++ left = other.debugBody.toList ++ right := by
  rw [debug, debug, String.toList_append, String.toList_append, List.append_assoc, List.append_assoc] at same
  obtain ⟨names, bodies⟩ := alphanumeric_append_inj value.alphanumeric_debugName
    other.alphanumeric_debugName (value.ends_debugBody ends) (other.ends_debugBody stops) same
  refine ⟨?_, bodies⟩
  rw [← idxOf_debugName, String.toList_inj.mp names, idxOf_debugName]

/-- The text of a field in descriptions. -/
def Value.debugField (field : String × Value) : String := quoted field.1 ++ ": " ++ field.2.debug

theorem Value.debugItems_eq_map (items : List Value) : debugItems items = items.map debug := by
  induction items with
  | nil => rfl
  | cons item rest hypothesis =>
    rw [debugItems, hypothesis]
    rfl

theorem Value.debugFields_eq_map (fields : List (String × Value)) :
    debugFields fields = fields.map debugField := by
  induction fields with
  | nil => rfl
  | cons field rest hypothesis =>
    rw [debugFields, hypothesis]
    rfl

/-- No value begins as a mark. -/
theorem Value.mark_ne_debug (value : Value) {mark : Char} (other : mark.isAlphanum = false)
    (behind rest : List Char) : mark :: behind ≠ value.debug.toList ++ rest := by
  rw [debug, String.toList_append, List.append_assoc]
  have present : value.debugName.toList ≠ [] := by
    cases value <;> simp [debugName, kindName]
  obtain ⟨head, tail, letters⟩ := List.exists_cons_of_ne_nil present
  have letter := value.alphanumeric_debugName head (letters ▸ List.mem_cons_self)
  rw [letters]
  intro same
  rw [← (List.cons.inj same).1, other] at letter
  cases letter

theorem Value.brace_ne_debugField (field : String × Value) (behind rest : List Char) :
    '\x7d' :: behind ≠ (debugField field).toList ++ rest := by
  rw [debugField, String.toList_append, String.toList_append, List.append_assoc, List.append_assoc,
    toList_quoted_append]
  exact fun same => absurd (List.cons.inj same).1 (by decide)

theorem Value.tells_debugField (key : String) (told : Tells debug printed value) :
    Tells debugField printedField (key, value) := by
  intro other left right ends stops same
  have written (field : String × Value) (behind : List Char) :
      (debugField field).toList ++ behind =
        (quoted field.1).toList ++ (": ".toList ++ (field.2.debug.toList ++ behind)) := by
    simp only [debugField, String.toList_append, List.append_assoc]
  rw [written, written] at same
  obtain ⟨keys, same⟩ := quoted_append_inj same
  obtain ⟨values, behind⟩ := told ends stops (List.append_cancel_left same)
  exact ⟨Prod.ext keys values, behind⟩

theorem Value.tells_debug_of_isDiscrete (discrete : value.isDiscrete = true) : Tells debug printed value := by
  intro other left right ends stops same
  obtain ⟨kind, bodies⟩ := debug_append_split ends stops same
  obtain ⟨values, behind⟩ := body_inj_of_isDiscrete discrete kind bodies
  exact ⟨congrArg printed values, behind⟩

theorem Value.tells_debug_double (number : Binary64) : Tells debug printed (.double number) := by
  intro other left right ends stops same
  obtain ⟨kind, bodies⟩ := debug_append_split ends stops same
  cases other with
  | double also =>
    rw [debugBody, debugBody] at bodies
    have plain (number : Binary64) : isPlain (Layout.debug.text number) = true :=
      isPlain_text ⟨rfl, rfl, rfl, rfl⟩ number
    obtain ⟨texts, behind⟩ := bracketed_append_inj (plain number) (plain also) bodies
    exact ⟨identical_double_iff.mp (Layout.text_debug_eq_iff.mp texts), behind⟩
  | _ => cases kind

theorem Value.tells_debug_array {items : List Value} (told : ∀ item ∈ items, Tells debug printed item) :
    Tells debug printed (.array items) := by
  intro other left right ends stops same
  obtain ⟨kind, bodies⟩ := debug_append_split ends stops same
  cases other with
  | array others =>
    rw [debugBody, debugBody, debugItems_eq_map, debugItems_eq_map] at bodies
    obtain ⟨meant, behind⟩ := bracketed_enclosed_append_inj told (by decide) (by decide)
      (fun item => item.mark_ne_debug (by decide)) bodies
    rw [printed, printed, printedItems_eq_map, printedItems_eq_map, meant]
    exact ⟨rfl, behind⟩
  | _ => cases kind

theorem Value.tells_debug_document {fields : List (String × Value)}
    (told : ∀ field ∈ fields, Tells debugField printedField field) :
    Tells debug printed (.document fields) := by
  intro other left right ends stops same
  obtain ⟨kind, bodies⟩ := debug_append_split ends stops same
  cases other with
  | document others =>
    rw [debugBody, debugBody, debugFields_eq_map, debugFields_eq_map] at bodies
    obtain ⟨meant, behind⟩ := bracketed_enclosed_append_inj told (by decide) (by decide)
      (fun field => brace_ne_debugField field) bodies
    rw [printed, printed, printedFields_eq_map, printedFields_eq_map, meant]
    exact ⟨rfl, behind⟩
  | _ => cases kind

theorem Value.tells_debug_javaScriptWithScope (code : String) {scope : List (String × Value)}
    (told : ∀ field ∈ scope, Tells debugField printedField field) :
    Tells debug printed (.javaScriptWithScope code scope) := by
  intro other left right ends stops same
  obtain ⟨kind, bodies⟩ := debug_append_split ends stops same
  cases other with
  | javaScriptWithScope also others =>
    rw [debugBody, debugBody] at bodies
    obtain ⟨⟨codes, scopes⟩, behind⟩ :=
      described_append_inj (tells_quoted code) (tells_debug_document told)
        (show _ = (described _ _ _ (debug (.document others))).toList ++ _ from bodies)
    rw [printed, printed, Value.document.injEq] at scopes
    rw [printed, printed, show code = also from codes, scopes]
    exact ⟨rfl, behind⟩
  | _ => cases kind

mutual

/-- **The text of a value tells its printed form**, wherever it stands. -/
theorem Value.tells_debug : (value : Value) → Tells debug printed value
  | .double number => tells_debug_double number
  | .array items => tells_debug_array (tells_debug_of_mem items)
  | .document fields => tells_debug_document (tells_debugField_of_mem fields)
  | .javaScriptWithScope code scope =>
    tells_debug_javaScriptWithScope code (tells_debugField_of_mem scope)
  | .null | .undefined | .boolean _ | .int32 _ | .int64 _ | .string _ | .symbol _ | .objectId _ | .dateTime _
  | .binary _ _ | .timestamp _ _ | .regex _ _ | .javaScript _ | .decimal _ | .dbPointer _ _ | .minKey
  | .maxKey =>
    tells_debug_of_isDiscrete rfl

theorem Value.tells_debug_of_mem : (items : List Value) → ∀ item ∈ items, Tells debug printed item
  | [] => nofun
  | item :: rest => List.forall_mem_cons.mpr ⟨tells_debug item, tells_debug_of_mem rest⟩

theorem Value.tells_debugField_of_mem : (fields : List (String × Value)) →
    ∀ field ∈ fields, Tells debugField printedField field
  | [] => nofun
  | (key, value) :: rest => List.forall_mem_cons.mpr
    ⟨tells_debugField key (tells_debug value), tells_debugField_of_mem rest⟩

end

/-! ### Values that print alike -/

theorem Value.debugName_printed (value : Value) : value.printed.debugName = value.debugName := by
  cases value with
  | double number =>
    rw [printed]
    split <;> rfl
  | _ => rfl

mutual

/-- What stands for a value has its text. -/
theorem Value.debugBody_printed : (value : Value) → value.printed.debugBody = value.debugBody
  | .double number => by
    have double (number : Binary64) : debugBody (.double number) = bracketed (Layout.debug.text number) := rfl
    rw [printed]
    split
    · rename_i nan
      rw [double, double, Layout.text_debug_eq_iff.mpr]
      rw [Binary64.identical, nan, Bool.and_true]
      exact Bool.or_eq_true_iff.mpr (.inr (by decide))
    · rfl
  | .array items => by
    rw [printed, debugBody, debugBody, debugItems_printedItems items]
  | .document fields => by
    rw [printed, debugBody, debugBody, debugFields_printedFields fields]
  | .javaScriptWithScope code scope => by
    rw [printed, debugBody, debugBody, debugFields_printedFields scope]
  | .null | .undefined | .boolean _ | .int32 _ | .int64 _ | .string _ | .symbol _ | .objectId _ | .dateTime _
  | .binary _ _ | .timestamp _ _ | .regex _ _ | .javaScript _ | .decimal _ | .dbPointer _ _ | .minKey
  | .maxKey => rfl

theorem Value.debugItems_printedItems : (items : List Value) →
    debugItems (printedItems items) = debugItems items
  | [] => rfl
  | item :: rest => by
    rw [printedItems, debugItems, debugItems, debugName_printed, debugBody_printed item,
      debugItems_printedItems rest]

theorem Value.debugFields_printedFields : (fields : List (String × Value)) →
    debugFields (printedFields fields) = debugFields fields
  | [] => rfl
  | (key, value) :: rest => by
    rw [printedFields, debugFields, debugFields, debugName_printed, debugBody_printed value,
      debugFields_printedFields rest]

end

/-- **Lists of values have one text exactly if they print alike.** -/
theorem Value.debugList_eq_iff {values others : List Value} :
    debugList values = debugList others ↔ identicalItems values others = true := by
  rw [identicalItems_iff]
  constructor
  · intro same
    have chars : (debugList values).toList ++ [] = (debugList others).toList ++ [] := by rw [same]
    rw [debugList, debugList, debugItems_eq_map, debugItems_eq_map] at chars
    obtain ⟨meant, -⟩ := enclosed_append_inj (tells_debug_of_mem values) (by decide) (by decide)
      (fun item => item.mark_ne_debug (by decide)) chars
    rw [printedItems_eq_map, printedItems_eq_map, meant]
  · intro same
    rw [debugList, ← debugItems_printedItems, same, debugItems_printedItems, debugList]

end Polystore
