/-
**Documents between their stored and their shown form.**

A stored document has an object identifier under `_id`, a shown one its 24 digits under `id`. Both
directions put the identifier in front and leave the other fields alone.

* `hex_of_ofHex?`: digits of either case are read, and written back in lower case;
* `erase_extend`: a field that is left out can be left out before others are written;
* `perm_cons_erase`: a field may be moved to the front;
* `identifiers_normalised`: so the shown form is normal, and each direction undoes the other.
-/

import Polystore.Proofs.Rows.RoundTrip

namespace Polystore

/-! ### Digits of either case -/

namespace Hex

/-- Whether a character is a hexadecimal digit, of either case. -/
def isDigit (character : Char) : Bool :=
  character.isDigit || ('a' ≤ character && character ≤ 'f') || ('A' ≤ character && character ≤ 'F')

/-- The characters that have a value are the digits. -/
theorem isSome_value? (character : Char) : (value? character).isSome = isDigit character := by
  have codes : isDigit character =
      ((48 ≤ character.toNat && character.toNat ≤ 57) || (97 ≤ character.toNat && character.toNat ≤ 102) ||
        (65 ≤ character.toNat && character.toNat ≤ 70)) := rfl
  simp only [codes, value?]
  by_cases decimal : 48 ≤ character.toNat ∧ character.toNat ≤ 57
  · simp [decimal]
  · by_cases lower : 97 ≤ character.toNat ∧ character.toNat ≤ 102
    · simp [if_neg decimal, lower]
    · by_cases upper : 65 ≤ character.toNat ∧ character.toNat ≤ 70
      · simp [if_neg decimal, if_neg lower, upper]
      · rw [if_neg decimal, if_neg lower, if_neg upper]
        simp only [← Bool.decide_and, decimal, lower, upper]
        rfl

/-- The digit of a value is the lower-case form of any digit that it was read from. -/
theorem digit_of_value? {character : Char} {value : Nat} (read : value? character = some value) :
    value < 16 ∧ digit value = character.toLower := by
  have named (start : Nat) (from_ : start ≤ character.toNat) :
      Char.ofNat (start + (character.toNat - start)) = character := by
    rw [Nat.add_sub_cancel' from_, Char.ofNat_toNat]
  simp only [value?] at read
  split at read
  · rename_i decimal
    obtain rfl := Option.some.inj read
    have written : ∀ offset : Fin 10, digit offset = (Char.ofNat (48 + offset)).toLower := by decide
    have same := written ⟨character.toNat - 48, by omega⟩
    rw [named 48 decimal.1] at same
    exact ⟨by omega, same⟩
  · split at read
    · rename_i lower
      obtain rfl := Option.some.inj read
      have written : ∀ offset : Fin 6, digit (10 + offset) = (Char.ofNat (97 + offset)).toLower := by decide
      have same := written ⟨character.toNat - 97, by omega⟩
      have value : 10 + (character.toNat - 97) = character.toNat - 87 := by omega
      rw [named 97 lower.1] at same
      exact ⟨by omega, value ▸ same⟩
    · split at read
      · rename_i upper
        obtain rfl := Option.some.inj read
        have written : ∀ offset : Fin 6, digit (10 + offset) = (Char.ofNat (65 + offset)).toLower := by
          decide
        have same := written ⟨character.toNat - 65, by omega⟩
        have value : 10 + (character.toNat - 65) = character.toNat - 55 := by omega
        rw [named 65 upper.1] at same
        exact ⟨by omega, value ▸ same⟩
      · cases read

/-- Digits, and nothing else, are read. -/
theorem isSome_numberFrom? (read : Nat) (text : List Char) :
    (numberFrom? read text).isSome = text.all isDigit := by
  induction text generalizing read with
  | nil => rfl
  | cons head rest hypothesis =>
    rw [numberFrom?, List.all_cons, ← isSome_value?]
    cases value? head with
    | none => rfl
    | some value => exact hypothesis _

/-- **Digits that were read are written back in lower case.** The digits of a number begin with its last
one, so the text is taken from its end. -/
theorem digits_of_numberFrom? {read number : Nat} {text : List Char}
    (found : numberFrom? read text = some number) :
    digits text.length number = text.map Char.toLower := by
  induction text using List.reverseRecOn generalizing number with
  | nil => rfl
  | append_singleton before last hypothesis =>
    rw [numberFrom?_append] at found
    obtain ⟨middle, begun, ended⟩ := Option.bind_eq_some_iff.mp found
    cases digit : value? last with
    | none => simp [numberFrom?, digit] at ended
    | some value =>
      obtain ⟨small, written⟩ := digit_of_value? digit
      obtain rfl : 16 * middle + value = number := by simpa [numberFrom?, digit] using ended
      have rest : (16 * middle + value) / 16 = middle := by omega
      have own : (16 * middle + value) % 16 = value := by omega
      rw [List.length_append, List.length_singleton, digits, rest, own, hypothesis begun, written,
        List.map_append, List.map_singleton]

/-- The last digits of a number are those of its remainder. -/
theorem digits_mod (count number : Nat) : digits count (number % 16 ^ count) = digits count number := by
  induction count generalizing number with
  | zero => rfl
  | succ count hypothesis =>
    rw [digits, digits, Nat.pow_succ', Nat.mod_mul_right_div_self, Nat.mod_mul_right_mod, hypothesis]

end Hex

namespace ObjectId

/-- Whether a text consists of 24 hexadecimal digits, of either case. -/
def isWritten (text : String) : Bool := text.toList.length = 24 && text.toList.all Hex.isDigit

theorem isSome_ofHex? (text : String) : (ofHex? text).isSome = isWritten text := by
  rw [ofHex?, isWritten]
  by_cases sized : text.toList.length = 24
  · simp [sized, Hex.number?, Hex.isSome_numberFrom?]
  · simp [sized]

/-- **An identifier is shown by the lower-case form of the text that it was read from.** -/
theorem hex_of_ofHex? {text : String} {identifier : ObjectId} (found : ofHex? text = some identifier) :
    identifier.hex = text.toLower := by
  rw [ofHex?] at found
  split at found
  · rename_i sized
    obtain ⟨number, read, rfl⟩ := Option.map_eq_some_iff.mp found
    have width : (BitVec.ofNat 96 number).toNat = number % 16 ^ 24 := BitVec.toNat_ofNat number 96
    have digits := Hex.digits_of_numberFrom? read
    rw [sized] at digits
    have lowered : text.toLower = text.map Char.toLower := rfl
    rw [hex, width, Hex.digits_mod, digits, lowered, ← String.toList_inj, String.toList_ofList,
      String.toList_map]
  · cases found

end ObjectId

/-! ### Fields that are left out -/

namespace Document

variable {document left right : Document}

@[simp] theorem erase_erase_self (key : String) (document : Document) :
    erase key (erase key document) = erase key document := by
  simp [erase]

theorem erase_comm (first second : String) (document : Document) :
    erase first (erase second document) = erase second (erase first document) := by
  simp [erase, List.filter_filter, Bool.and_comm]

theorem erase_insert (key name : String) (value : Value) (document : Document) :
    erase key (insert name value document) =
      if name = key then erase key document else insert name value (erase key document) := by
  induction document with
  | nil => by_cases same : name = key <;> simp [insert, erase, same]
  | cons field rest hypothesis =>
    obtain ⟨other, old⟩ := field
    unfold erase at hypothesis ⊢
    by_cases same : name = key <;> by_cases here : other = name <;> by_cases left : other = key <;>
      simp_all [insert]

/-- **A field that is left out can be left out before others are written.** -/
theorem erase_extend (key : String) (document fields : Document) :
    erase key (extend document fields) = extend (erase key document) (erase key fields) := by
  induction fields generalizing document with
  | nil => rfl
  | cons field rest hypothesis =>
    obtain ⟨name, value⟩ := field
    show erase key (extend (insert name value document) rest) = _
    rw [hypothesis, erase_insert]
    by_cases same : name = key <;> simp [erase, extend, same]

/-- **A field may be moved to the front**, where no key repeats. -/
theorem perm_cons_erase (distinct : (keys document).Nodup) {key : String} {value : Value}
    (found : get? key document = some value) : ((key, value) :: erase key document).Perm document := by
  induction document with
  | nil => cases found
  | cons field rest hypothesis =>
    obtain ⟨name, old⟩ := field
    obtain ⟨fresh, others⟩ := List.nodup_cons.mp distinct
    by_cases same : name = key
    · subst same
      obtain rfl : old = value := by simpa [get?] using found
      have alone : erase name ((name, old) :: rest) = rest := by
        rw [← erase_of_not_mem_keys fresh]
        simp [erase]
      rw [alone]
    · have later : get? key rest = some value := by simpa [get?, same] using found
      have kept : erase key ((name, old) :: rest) = (name, old) :: erase key rest := by
        simp [erase, same]
      rw [kept]
      exact (List.Perm.swap ..).trans ((hypothesis others later).cons _)

/-- Rearranged documents are equal to the same documents. -/
theorem equals_congr (permuted : left.Perm right) (other : Document) :
    Document.equals left other = Document.equals right other := by
  have within : Value.fieldsWithin left other = Value.fieldsWithin right other := by
    rw [Bool.eq_iff_iff, Value.fieldsWithin_iff, Value.fieldsWithin_iff]
    simp only [permuted.mem_iff]
  rw [Document.equals, Document.equals, within, permuted.length_eq]

/-- The fields of a document that hold no identifier, in their order. -/
def plain (document : Document) : Document :=
  erase ObjectIdentifier.nativeField (erase idField document)

end Document

/-! ### The two forms -/

namespace ObjectIdentifier

variable {document native : Document} {identifier : ObjectId} {text : String}

/-- A shown document is its own shown form. -/
theorem canonicalDocument_canonicalDocument (document : Document) :
    canonicalDocument (canonicalDocument document) = canonicalDocument document := by
  have bare := get?_native_canonicalDocument document
  rw [canonicalDocument, bare]

theorem plain_canonicalDocument (document : Document) :
    Document.plain (canonicalDocument document) = Document.plain document := by
  unfold canonicalDocument
  cases Document.get? nativeField document with
  | none => rfl
  | some native =>
    have shown (value : Value) (fields : Document) :
        Document.erase idField ((idField, value) :: fields) = Document.erase idField fields := by
      simp [Document.erase]
    simp only [Document.plain, shown, Document.erase_erase_self,
      Document.erase_comm idField nativeField]

/-- What is stored for a row is its fields behind its identifier, if it has one. -/
theorem exists_of_nativeDocument (stored : nativeDocument document = .ok native) :
    native = Document.erase idField document ∨
      ∃ value, native = Document.extend [(nativeField, value)] (Document.erase idField document) := by
  unfold nativeDocument at stored
  split at stored
  · obtain ⟨value, -, made⟩ := bind_eq_ok.mp stored
    exact .inr ⟨value, (Except.ok.inj made).symm⟩
  · exact .inl (Except.ok.inj stored).symm

theorem plain_of_nativeDocument (distinct : (Document.keys document).Nodup)
    (stored : nativeDocument document = .ok native) : Document.plain native = Document.plain document := by
  rcases exists_of_nativeDocument stored with rfl | ⟨value, rfl⟩
  · rw [Document.plain, Document.erase_erase_self, Document.plain]
  · have front : Document.erase nativeField (Document.erase idField [(nativeField, value)]) = [] := rfl
    have others : (Document.keys (Document.plain document)).Nodup :=
      Document.nodup_keys_filter (Document.nodup_keys_filter distinct _) _
    rw [Document.plain, Document.erase_extend, Document.erase_extend, front, Document.erase_erase_self]
    exact Document.extend_of_disjoint others nofun

/-- A row with a text for an identifier is stored as the text names it, if it names one. -/
theorem nativeDocument_of_text (shown : Document.get? idField document = some (.string text)) :
    nativeDocument document =
      match ObjectId.ofHex? text with
      | some identifier => .ok (identified identifier document)
      | none => .error (.invalidIdentifier ("'" ++ text ++ "' is not a valid object id")) := by
  have present : Document.present? idField document = some (.string text) := by
    rw [Document.present?, shown]
    rfl
  simp only [nativeDocument, present, nativeValue, parse]
  cases ObjectId.ofHex? text with
  | none => rfl
  | some identifier => rfl

/-- A document with an object identifier is shown with the digits of it in front, and these are stored
as the identifier again. -/
theorem nativeDocument_canonicalDocument (distinct : (Document.keys document).Nodup)
    (known : Document.get? nativeField document = some (.objectId identifier))
    (free : Document.get? idField document = none) :
    nativeDocument (canonicalDocument document) =
      .ok ((nativeField, .objectId identifier) :: Document.erase nativeField document) := by
  have absent : idField ∉ Document.keys (Document.erase nativeField document) := by
    intro member
    have present := Document.contains_iff.mpr member
    rw [Document.contains, Document.get?_erase_of_ne (by decide), free] at present
    cases present
  have shown : canonicalDocument document =
      (idField, .string identifier.hex) :: Document.erase nativeField document := by
    rw [canonicalDocument, known]
    simp only [canonicalValue, Document.erase_of_not_mem_keys absent]
  have behind : Document.erase idField (canonicalDocument document) =
      Document.erase nativeField document := by
    rw [shown, ← Document.erase_of_not_mem_keys absent]
    simp [Document.erase]
  have written : Document.extend [(nativeField, .objectId identifier)]
      (Document.erase nativeField document) =
        (nativeField, .objectId identifier) :: Document.erase nativeField document := by
    refine Document.extend_of_disjoint (Document.nodup_keys_filter distinct _) ?_
    intro key member listed
    obtain rfl := List.mem_singleton.mp listed
    exact Document.not_mem_keys_erase nativeField document member
  rw [nativeDocument_of_text (get?_id_canonicalDocument known), ObjectId.ofHex?_hex]
  simp only [identified, behind, written]

end ObjectIdentifier

open ObjectIdentifier in
/-- **The stored and the shown form of documents.** The shown form is normal and has no `_id`, and both
directions leave the fields that hold no identifier as they are. A document with an object identifier and
no field `id` comes back from its shown form; a row with a text under `id` and no `_id` can be stored exactly
if the text is 24 digits of either case, and then comes back with these in lower case. Coming back, the
identifier stands in front. -/
theorem identifiers_normalised (document : Document) :
    canonicalDocument (canonicalDocument document) = canonicalDocument document ∧
    Document.get? nativeField (canonicalDocument document) = none ∧
    Document.plain (canonicalDocument document) = Document.plain document ∧
    ((Document.keys document).Nodup →
      (∀ native, nativeDocument document = .ok native →
        Document.plain native = Document.plain document) ∧
      (∀ identifier, Document.get? nativeField document = some (.objectId identifier) →
        Document.get? idField document = none →
          ∃ back, nativeDocument (canonicalDocument document) = .ok back ∧ back.Perm document ∧
            Document.equals back document = Document.equals document document) ∧
      ∀ text, Document.get? idField document = some (.string text) →
        Document.get? nativeField document = none →
          if ObjectId.isWritten text then
            ∃ native, nativeDocument document = .ok native ∧
              (canonicalDocument native).Perm (Document.insert idField (.string text.toLower) document)
          else
            nativeDocument document =
              .error (.invalidIdentifier ("'" ++ text ++ "' is not a valid object id"))) := by
  refine ⟨canonicalDocument_canonicalDocument document, get?_native_canonicalDocument document,
    plain_canonicalDocument document, fun distinct => ⟨?_, ?_, ?_⟩⟩
  · exact fun native stored => plain_of_nativeDocument distinct stored
  · intro identifier identified free
    have moved := Document.perm_cons_erase distinct identified
    exact ⟨_, nativeDocument_canonicalDocument distinct identified free, moved,
      Document.equals_congr moved document⟩
  · intro text shown free
    rw [nativeDocument_of_text shown, ← ObjectId.isSome_ofHex?]
    cases read : ObjectId.ofHex? text with
    | none => rfl
    | some identifier =>
      have bare : nativeField ∉ Document.keys document := by
        intro member
        have present := Document.contains_iff.mpr member
        rw [Document.contains, free] at present
        cases present
      have lowered := Document.perm_cons_erase
        (Document.nodup_keys_insert distinct idField (.string text.toLower))
        (Document.get?_insert_self idField (.string text.toLower) document)
      rw [Document.erase_insert, if_pos rfl] at lowered
      refine ⟨_, rfl, ?_⟩
      rw [canonicalDocument_identified distinct bare, ObjectId.hex_of_ofHex? read]
      exact lowered

open ObjectIdentifier in
theorem identifiers_normalised_mixedCase :
    (∃ back, nativeDocument (canonicalDocument [("name", .string "Ann"), ("_id", .objectId ⟨10⟩)]) = .ok back ∧
      back.Perm [("name", .string "Ann"), ("_id", .objectId ⟨10⟩)]) ∧
    (∃ native, nativeDocument [("name", .string "Bob"), ("id", .string "00000000000000000000beEF")] =
        .ok native ∧
      (canonicalDocument native).Perm
        [("name", .string "Bob"), ("id", .string "00000000000000000000beef")]) ∧
    nativeDocument [("id", .string "beef")] =
      .error (.invalidIdentifier "'beef' is not a valid object id") := by
  obtain ⟨back, stored, moved, -⟩ := ((identifiers_normalised [("name", .string "Ann"),
    ("_id", .objectId ⟨10⟩)]).2.2.2 (by decide)).2.1 ⟨10⟩ rfl rfl
  have lowered := ((identifiers_normalised [("name", .string "Bob"),
    ("id", .string "00000000000000000000beEF")]).2.2.2 (by decide)).2.2 "00000000000000000000beEF" rfl rfl
  have refused := ((identifiers_normalised [("id", .string "beef")]).2.2.2 (by decide)).2.2 "beef" rfl rfl
  have lower : "00000000000000000000beEF".toLower = "00000000000000000000beef" := by
    show "00000000000000000000beEF".map Char.toLower = _
    rw [← String.toList_inj, String.toList_map]
    decide
  rw [if_pos (by decide), lower] at lowered
  rw [if_neg (by decide)] at refused
  exact ⟨⟨back, stored, moved⟩, lowered, refused⟩

end Polystore
