/-
**How the equalities of values are related.**

Keys of joins are collected by `Value.equals`, looked up with the equality of filters (`Value.alike`)
and matched by `Native.sameKey`. Whatever is matched was also looked up.

* `equals_trans` and `equals_symm`: equality by content is transitive, and symmetric where no document
  repeats a key;
* `alike_of_equals`: equal values are alike;
* `equals_self`: values without a not-a-number are equal to themselves;
* `sameKey_of_equals`, `sameKey_symm`: the sameness of keys goes along with equality;
* `equalsOperand_of_sameKey`: a filter that asks for a key finds every field that is the same;
* `equalsOperand_trans_equals`: filters that ask for equal values find the same fields.
-/

import Mathlib.Data.List.Nodup
import Mathlib.Data.List.Perm.Subperm
import Polystore.Memory.Matching
import Polystore.Proofs.Number.Whole

namespace Polystore

open Memory Native

/-! ### Doubles -/

namespace Binary64

/-- Numeric equality is equality of keys among numbers. -/
theorem equals_iff {left right : Binary64} :
    left.equals right = true ↔
      left.isNaN = false ∧ right.isNaN = false ∧ left.key = right.key := by
  unfold equals order?
  cases left.isNaN <;> cases right.isNaN <;> simp

theorem equals_symm {left right : Binary64} (equal : left.equals right = true) :
    right.equals left = true := by
  obtain ⟨leftNumber, rightNumber, keys⟩ := equals_iff.mp equal
  exact equals_iff.mpr ⟨rightNumber, leftNumber, keys.symm⟩

theorem equals_trans {left middle right : Binary64} (first : left.equals middle = true)
    (second : middle.equals right = true) : left.equals right = true := by
  obtain ⟨leftNumber, _, former⟩ := equals_iff.mp first
  obtain ⟨_, rightNumber, latter⟩ := equals_iff.mp second
  exact equals_iff.mpr ⟨leftNumber, rightNumber, former.trans latter⟩

theorem equals_ofInt_self {number : Int} (small : number.natAbs < 2 ^ 64) :
    (ofInt number).equals (ofInt number) = true :=
  equals_iff.mpr ⟨isNaN_ofInt small, isNaN_ofInt small, rfl⟩

end Binary64

/-! ### Keys of documents -/

mutual

/-- Whether no document in a value repeats a key. -/
def Value.hasDistinctKeys : Value → Bool
  | .array items => Value.haveDistinctKeys items
  | .document fields | .javaScriptWithScope _ fields => Document.hasDistinctKeys fields
  | _ => true

/-- `Value.hasDistinctKeys` of every item. -/
def Value.haveDistinctKeys : List Value → Bool
  | [] => true
  | value :: rest => value.hasDistinctKeys && Value.haveDistinctKeys rest

/-- Whether a document, and every document in it, repeats no key. -/
def Document.hasDistinctKeys : List (String × Value) → Bool
  | [] => true
  | (key, value) :: rest =>
    !Document.contains key rest && value.hasDistinctKeys && Document.hasDistinctKeys rest

end

namespace Document

variable {document : Document}

/-- A document without repeated keys has distinct keys, and so do its values. -/
theorem hasDistinctKeys_iff :
    hasDistinctKeys document = true ↔
      (keys document).Nodup ∧ ∀ field ∈ document, field.2.hasDistinctKeys = true := by
  induction document with
  | nil => simp [hasDistinctKeys, keys]
  | cons field rest hypothesis =>
    obtain ⟨name, first⟩ := field
    rw [hasDistinctKeys, Bool.and_eq_true, Bool.and_eq_true, Bool.not_eq_true', hypothesis,
      ← Bool.not_eq_true, contains_iff]
    show _ ↔ (name :: keys rest).Nodup ∧ _
    rw [List.nodup_cons, List.forall_mem_cons]
    tauto

end Document

/-! ### Equality by content -/

theorem Value.fieldsWithin_iff {fields : List (String × Value)} {other : Document} :
    Value.fieldsWithin fields other = true ↔
      ∀ field ∈ fields, ∃ found, Document.get? field.1 other = some found ∧
        field.2.equals found = true := by
  induction fields with
  | nil => simp [Value.fieldsWithin]
  | cons field rest hypothesis =>
    obtain ⟨key, value⟩ := field
    rw [Value.fieldsWithin, Bool.and_eq_true, hypothesis, List.forall_mem_cons]
    cases Document.get? key other <;> simp

/-- Whether a value is equal to none but itself: it is no double and holds no further values. -/
def Value.isDiscrete : Value → Bool
  | .double _ | .array _ | .document _ | .javaScriptWithScope _ _ => false
  | _ => true

theorem Value.eq_of_equals {left right : Value} (discrete : left.isDiscrete = true)
    (equal : left.equals right = true) : left = right := by
  cases left <;> cases discrete <;> cases right <;>
    simp_all only [Value.equals, Bool.false_eq_true, Bool.and_eq_true, beq_iff_eq]

theorem Value.equals_self_of_isDiscrete {value : Value} (discrete : value.isDiscrete = true) :
    value.equals value = true := by
  cases value <;> cases discrete <;> simp only [Value.equals, beq_self_eq_true, Bool.and_self]

mutual

/-- **Equality by content is transitive.** -/
theorem Value.equals_trans : (left : Value) → {middle right : Value} →
    left.equals middle = true → middle.equals right = true → left.equals right = true
  | .array lefts, middle, right, first, second => by
    cases middle <;> simp only [Value.equals, Bool.false_eq_true] at first
    cases right <;> simp only [Value.equals, Bool.false_eq_true] at second ⊢
    exact Value.equalItems_trans lefts first second
  | .document lefts, middle, right, first, second => by
    cases middle <;> simp only [Value.equals, Bool.false_eq_true] at first
    cases right <;> simp only [Value.equals, Bool.false_eq_true] at second ⊢
    rw [Bool.and_eq_true, beq_iff_eq] at first second ⊢
    exact ⟨first.1.trans second.1, Value.fieldsWithin_trans lefts first.2 second.2⟩
  | .javaScriptWithScope _ lefts, middle, right, first, second => by
    cases middle <;> simp only [Value.equals, Bool.false_eq_true] at first
    cases right <;> simp only [Value.equals, Bool.false_eq_true] at second ⊢
    rw [Bool.and_eq_true, Bool.and_eq_true, beq_iff_eq, beq_iff_eq] at first second ⊢
    exact ⟨first.1.trans second.1, first.2.1.trans second.2.1,
      Value.fieldsWithin_trans lefts first.2.2 second.2.2⟩
  | .double _, middle, right, first, second => by
    cases middle <;> simp only [Value.equals, Bool.false_eq_true] at first
    cases right <;> simp only [Value.equals, Bool.false_eq_true] at second ⊢
    exact Binary64.equals_trans first second
  | .null, middle, right, first, second
  | .undefined, middle, right, first, second
  | .boolean _, middle, right, first, second
  | .int32 _, middle, right, first, second
  | .int64 _, middle, right, first, second
  | .string _, middle, right, first, second
  | .symbol _, middle, right, first, second
  | .objectId _, middle, right, first, second
  | .dateTime _, middle, right, first, second
  | .binary _ _, middle, right, first, second
  | .timestamp _ _, middle, right, first, second
  | .regex _ _, middle, right, first, second
  | .javaScript _, middle, right, first, second
  | .decimal _, middle, right, first, second
  | .dbPointer _ _, middle, right, first, second
  | .minKey, middle, right, first, second
  | .maxKey, middle, right, first, second => by
    obtain rfl := Value.eq_of_equals rfl first
    exact second

/-- `Value.equals_trans` item by item. -/
theorem Value.equalItems_trans : (lefts : List Value) → {middles rights : List Value} →
    Value.equalItems lefts middles = true → Value.equalItems middles rights = true →
      Value.equalItems lefts rights = true
  | [], middles, rights, first, second => by
    cases middles with
    | nil => exact second
    | cons _ _ => cases first
  | left :: lefts, middles, rights, first, second => by
    cases middles with
    | nil => cases first
    | cons middle middles =>
      cases rights with
      | nil => cases second
      | cons right rights =>
        rw [Value.equalItems, Bool.and_eq_true] at first second ⊢
        exact ⟨Value.equals_trans left first.1 second.1,
          Value.equalItems_trans lefts first.2 second.2⟩

/-- `Value.equals_trans` field by field. -/
theorem Value.fieldsWithin_trans : (lefts : List (String × Value)) → {middle right : Document} →
    Value.fieldsWithin lefts middle = true → Value.fieldsWithin middle right = true →
      Value.fieldsWithin lefts right = true
  | [], _, _, _, _ => rfl
  | (key, left) :: lefts, middle, right, first, second => by
    rw [Value.fieldsWithin, Bool.and_eq_true] at first ⊢
    refine ⟨?_, Value.fieldsWithin_trans lefts first.2 second⟩
    cases found : Document.get? key middle with
    | none =>
      rw [found] at first
      exact absurd first.1 Bool.false_ne_true
    | some value =>
      rw [found] at first
      obtain ⟨last, present, equal⟩ :=
        Value.fieldsWithin_iff.mp second (key, value) (Document.mem_of_get? found)
      rw [present]
      exact Value.equals_trans left first.1 equal

end

/-- A document without repeated keys that stands in another one of the same length has its keys. -/
theorem Document.keys_perm_of_fieldsWithin {left right : Document} (distinct : (keys left).Nodup)
    (sized : left.length = right.length) (within : Value.fieldsWithin left right = true) :
    (keys left).Perm (keys right) := by
  have subset : keys left ⊆ keys right := by
    intro key member
    obtain ⟨field, inside, rfl⟩ := List.mem_map.mp member
    obtain ⟨found, present, _⟩ := Value.fieldsWithin_iff.mp within field inside
    exact contains_iff.mp (Option.isSome_iff_exists.mpr ⟨found, present⟩)
  refine (distinct.subperm subset).perm_of_length_le ?_
  simp only [keys, List.length_map]
  exact Nat.le_of_eq sized.symm

/-- If a document without repeated keys stands in another one of the same length, and its values are
found equal from there, the other one stands in it. -/
theorem Value.fieldsWithin_of_found {left right : Document} (distinct : (Document.keys left).Nodup)
    (sized : left.length = right.length) (within : Value.fieldsWithin left right = true)
    (back : ∀ field ∈ left, ∃ found, Document.get? field.1 right = some found ∧
      found.equals field.2 = true) :
    Value.fieldsWithin right left = true := by
  refine Value.fieldsWithin_iff.mpr fun (key, value) inside => ?_
  have keys := Document.keys_perm_of_fieldsWithin distinct sized within
  have member : key ∈ Document.keys left :=
    keys.mem_iff.mpr (List.mem_map.mpr ⟨_, inside, rfl⟩)
  obtain ⟨first, found⟩ := Document.exists_get?_of_mem_keys member
  obtain ⟨other, present, equal⟩ := back (key, first) (Document.mem_of_get? found)
  have same : value = other :=
    Option.some.inj ((Document.get?_of_mem (keys.nodup_iff.mp distinct) inside).symm.trans present)
  exact ⟨first, found, same ▸ equal⟩

mutual

/-- **Equality by content is symmetric** where no document repeats a key. -/
theorem Value.equals_symm : (left : Value) → {right : Value} → left.hasDistinctKeys = true →
    left.equals right = true → right.equals left = true
  | .array lefts, right, distinct, equal => by
    cases right <;> simp only [Value.equals, Bool.false_eq_true] at equal ⊢
    exact Value.equalItems_symm lefts distinct equal
  | .document lefts, right, distinct, equal => by
    cases right with
    | document rights =>
      rw [Value.equals, Bool.and_eq_true, beq_iff_eq] at equal ⊢
      exact ⟨equal.1.symm, Value.fieldsWithin_of_found (Document.hasDistinctKeys_iff.mp distinct).1
        equal.1 equal.2 (Value.fieldsWithin_symm lefts distinct equal.2)⟩
    | _ => cases equal
  | .javaScriptWithScope _ lefts, right, distinct, equal => by
    cases right with
    | javaScriptWithScope _ rights =>
      rw [Value.equals, Bool.and_eq_true, Bool.and_eq_true, beq_iff_eq, beq_iff_eq] at equal ⊢
      exact ⟨equal.1.symm, equal.2.1.symm,
        Value.fieldsWithin_of_found (Document.hasDistinctKeys_iff.mp distinct).1 equal.2.1 equal.2.2
          (Value.fieldsWithin_symm lefts distinct equal.2.2)⟩
    | _ => cases equal
  | .double _, right, _, equal => by
    cases right <;> simp only [Value.equals, Bool.false_eq_true] at equal ⊢
    exact Binary64.equals_symm equal
  | .null, right, _, equal
  | .undefined, right, _, equal
  | .boolean _, right, _, equal
  | .int32 _, right, _, equal
  | .int64 _, right, _, equal
  | .string _, right, _, equal
  | .symbol _, right, _, equal
  | .objectId _, right, _, equal
  | .dateTime _, right, _, equal
  | .binary _ _, right, _, equal
  | .timestamp _ _, right, _, equal
  | .regex _ _, right, _, equal
  | .javaScript _, right, _, equal
  | .decimal _, right, _, equal
  | .dbPointer _ _, right, _, equal
  | .minKey, right, _, equal
  | .maxKey, right, _, equal => by
    obtain rfl := Value.eq_of_equals rfl equal
    exact equal

/-- `Value.equals_symm` item by item. -/
theorem Value.equalItems_symm : (lefts : List Value) → {rights : List Value} →
    Value.haveDistinctKeys lefts = true → Value.equalItems lefts rights = true →
      Value.equalItems rights lefts = true
  | [], rights, _, equal => by
    cases rights with
    | nil => rfl
    | cons _ _ => cases equal
  | left :: lefts, rights, distinct, equal => by
    cases rights with
    | nil => cases equal
    | cons right rights =>
      rw [Value.haveDistinctKeys, Bool.and_eq_true] at distinct
      rw [Value.equalItems, Bool.and_eq_true] at equal ⊢
      exact ⟨Value.equals_symm left distinct.1 equal.1,
        Value.equalItems_symm lefts distinct.2 equal.2⟩

/-- `Value.equals_symm` field by field. -/
theorem Value.fieldsWithin_symm : (lefts : List (String × Value)) → {right : Document} →
    Document.hasDistinctKeys lefts = true → Value.fieldsWithin lefts right = true →
      ∀ field ∈ lefts, ∃ found, Document.get? field.1 right = some found ∧
        found.equals field.2 = true
  | [], _, _, _ => nofun
  | (key, left) :: lefts, right, distinct, within => by
    rw [Document.hasDistinctKeys, Bool.and_eq_true, Bool.and_eq_true] at distinct
    rw [Value.fieldsWithin_iff, List.forall_mem_cons] at within
    refine List.forall_mem_cons.mpr ⟨?_, ?_⟩
    · obtain ⟨found, present, equal⟩ := within.1
      exact ⟨found, present, Value.equals_symm left distinct.1.2 equal⟩
    · exact Value.fieldsWithin_symm lefts distinct.2 (Value.fieldsWithin_iff.mpr within.2)

end

/-! ### Equality in filters -/

section Numbers

variable {left right : Value}

/-- Equal values are both no numbers, or numbers that are equal as doubles. -/
theorem asNumber?_of_equals (equal : left.equals right = true) :
    (asNumber? left = none ∧ asNumber? right = none) ∨
      ∃ first second, asNumber? left = some first ∧ asNumber? right = some second ∧
        first.equals second = true := by
  cases left with
  | double first =>
    cases right <;> simp only [Value.equals, Bool.false_eq_true] at equal
    exact .inr ⟨_, _, rfl, rfl, equal⟩
  | int32 number =>
    obtain rfl := Value.eq_of_equals rfl equal
    refine .inr ⟨_, _, rfl, rfl, Binary64.equals_ofInt_self ?_⟩
    have := number.toInt_lt
    have := number.le_toInt
    omega
  | int64 number =>
    obtain rfl := Value.eq_of_equals rfl equal
    refine .inr ⟨_, _, rfl, rfl, Binary64.equals_ofInt_self ?_⟩
    have := number.toInt_lt
    have := number.le_toInt
    omega
  | _ =>
    left
    cases right <;> simp only [Value.equals, Bool.false_eq_true] at equal
    exact ⟨rfl, rfl⟩

/-- Numbers are alike if they are equal as doubles. -/
theorem alike_eq_equals {first second : Binary64} (former : asNumber? left = some first)
    (latter : asNumber? right = some second) : left.alike right = first.equals second := by
  cases left <;> cases former <;> cases right <;> cases latter <;> rfl

end Numbers

mutual

/-- **Equal values are alike.** -/
theorem Value.alike_of_equals : (left : Value) → {right : Value} →
    left.equals right = true → left.alike right = true
  | .array lefts, right, equal => by
    cases right <;> simp only [Value.equals, Bool.false_eq_true] at equal
    rw [Value.alike]
    exact Value.alikeItems_of_equalItems lefts equal
  | .document lefts, right, equal => by
    cases right <;> simp only [Value.equals, Bool.false_eq_true] at equal
    rw [Value.alike]
    rw [Bool.and_eq_true] at equal ⊢
    exact ⟨equal.1, Value.alikeFields_of_fieldsWithin lefts equal.2⟩
  | .javaScriptWithScope _ _, right, equal => by
    rw [Value.alike, Value.alikeScalar]
    · exact Bool.or_eq_true_iff.mpr (.inr equal)
    all_goals exact nofun
  | .int32 _, right, equal
  | .int64 _, right, equal
  | .double _, right, equal => by
    rcases asNumber?_of_equals equal with ⟨absent, _⟩ | ⟨first, second, former, latter, numbers⟩
    · cases absent
    · rw [alike_eq_equals former latter]
      exact numbers
  | .null, right, equal
  | .undefined, right, equal
  | .boolean _, right, equal
  | .string _, right, equal
  | .symbol _, right, equal
  | .objectId _, right, equal
  | .dateTime _, right, equal
  | .binary _ _, right, equal
  | .timestamp _ _, right, equal
  | .regex _ _, right, equal
  | .javaScript _, right, equal
  | .decimal _, right, equal
  | .dbPointer _ _, right, equal
  | .minKey, right, equal
  | .maxKey, right, equal => by
    obtain rfl := Value.eq_of_equals rfl equal
    simp [Value.equals, Value.alike, Value.alikeScalar, Value.text?, Value.isNullish, Native.sameKey,
      Native.asNumber?]

/-- `Value.alike_of_equals` item by item. -/
theorem Value.alikeItems_of_equalItems : (lefts : List Value) → {rights : List Value} →
    Value.equalItems lefts rights = true → Value.alikeItems lefts rights = true
  | [], rights, equal => by
    cases rights with
    | nil => rfl
    | cons _ _ => cases equal
  | left :: lefts, rights, equal => by
    cases rights with
    | nil => cases equal
    | cons right rights =>
      rw [Value.equalItems, Bool.and_eq_true] at equal
      rw [Value.alikeItems, Bool.and_eq_true]
      exact ⟨Value.alike_of_equals left equal.1, Value.alikeItems_of_equalItems lefts equal.2⟩

/-- `Value.alike_of_equals` field by field. -/
theorem Value.alikeFields_of_fieldsWithin : (lefts : List (String × Value)) → {right : Document} →
    Value.fieldsWithin lefts right = true → Value.alikeFields lefts right = true
  | [], _, _ => rfl
  | (key, left) :: lefts, right, within => by
    rw [Value.fieldsWithin, Bool.and_eq_true] at within
    rw [Value.alikeFields, Bool.and_eq_true]
    refine ⟨?_, Value.alikeFields_of_fieldsWithin lefts within.2⟩
    cases found : Document.get? key right with
    | none =>
      rw [found] at within
      exact absurd within.1 Bool.false_ne_true
    | some value =>
      rw [found] at within
      exact Value.alike_of_equals left within.1

end

/-! ### Values that are equal to themselves -/

mutual

/-- Whether no double in a value is a not-a-number. -/
def Value.isNaNFree : Value → Bool
  | .double number => !number.isNaN
  | .array items => Value.areNaNFree items
  | .document fields | .javaScriptWithScope _ fields => Document.isNaNFree fields
  | _ => true

/-- `Value.isNaNFree` of every item. -/
def Value.areNaNFree : List Value → Bool
  | [] => true
  | value :: rest => value.isNaNFree && Value.areNaNFree rest

/-- `Value.isNaNFree` of every field. -/
def Document.isNaNFree : List (String × Value) → Bool
  | [] => true
  | (_, value) :: rest => value.isNaNFree && Document.isNaNFree rest

end

/-- A document without repeated keys stands in itself if its values are equal to themselves. -/
theorem Value.fieldsWithin_self {fields : Document} (distinct : (Document.keys fields).Nodup)
    (equal : ∀ field ∈ fields, field.2.equals field.2 = true) :
    Value.fieldsWithin fields fields = true :=
  Value.fieldsWithin_iff.mpr fun field member =>
    ⟨field.2, Document.get?_of_mem distinct member, equal field member⟩

mutual

/-- **A value without a not-a-number is equal to itself.** -/
theorem Value.equals_self : (value : Value) → value.hasDistinctKeys = true →
    value.isNaNFree = true → value.equals value = true
  | .double number, _, free => by
    rw [Value.isNaNFree, Bool.not_eq_true'] at free
    rw [Value.equals]
    exact Binary64.equals_iff.mpr ⟨free, free, rfl⟩
  | .array items, distinct, free => by
    rw [Value.equals]
    exact Value.equalItems_self items distinct free
  | .document fields, distinct, free => by
    rw [Value.equals, Bool.and_eq_true]
    exact ⟨beq_self_eq_true _, Value.fieldsWithin_self (Document.hasDistinctKeys_iff.mp distinct).1
      (Document.equals_self_of_mem fields distinct free)⟩
  | .javaScriptWithScope _ fields, distinct, free => by
    rw [Value.equals, Bool.and_eq_true, Bool.and_eq_true]
    exact ⟨beq_self_eq_true _, beq_self_eq_true _,
      Value.fieldsWithin_self (Document.hasDistinctKeys_iff.mp distinct).1
        (Document.equals_self_of_mem fields distinct free)⟩
  | .null, _, _ | .undefined, _, _ | .boolean _, _, _ | .int32 _, _, _ | .int64 _, _, _ | .string _, _, _
  | .symbol _, _, _ | .objectId _, _, _ | .dateTime _, _, _ | .binary _ _, _, _ | .timestamp _ _, _, _
  | .regex _ _, _, _ | .javaScript _, _, _ | .decimal _, _, _ | .dbPointer _ _, _, _ | .minKey, _, _
  | .maxKey, _, _ =>
    Value.equals_self_of_isDiscrete rfl

/-- `Value.equals_self` item by item. -/
theorem Value.equalItems_self : (items : List Value) → Value.haveDistinctKeys items = true →
    Value.areNaNFree items = true → Value.equalItems items items = true
  | [], _, _ => rfl
  | value :: rest, distinct, free => by
    rw [Value.haveDistinctKeys, Bool.and_eq_true] at distinct
    rw [Value.areNaNFree, Bool.and_eq_true] at free
    rw [Value.equalItems, Bool.and_eq_true]
    exact ⟨Value.equals_self value distinct.1 free.1, Value.equalItems_self rest distinct.2 free.2⟩

/-- `Value.equals_self` field by field. -/
theorem Document.equals_self_of_mem : (fields : List (String × Value)) →
    Document.hasDistinctKeys fields = true → Document.isNaNFree fields = true →
      ∀ field ∈ fields, field.2.equals field.2 = true
  | [], _, _ => nofun
  | (key, value) :: rest, distinct, free => by
    rw [Document.hasDistinctKeys, Bool.and_eq_true, Bool.and_eq_true] at distinct
    rw [Document.isNaNFree, Bool.and_eq_true] at free
    exact List.forall_mem_cons.mpr ⟨Value.equals_self value distinct.1.2 free.1,
      Document.equals_self_of_mem rest distinct.2 free.2⟩

end

theorem Document.isNaNFree_of_mem {fields : Document} (free : Document.isNaNFree fields = true)
    {field : String × Value} (member : field ∈ fields) : field.2.isNaNFree = true := by
  induction fields with
  | nil => cases member
  | cons first rest hypothesis =>
    rw [Document.isNaNFree, Bool.and_eq_true] at free
    rcases List.mem_cons.mp member with rfl | later
    · exact free.1
    · exact hypothesis free.2 later

/-- Filters find such a value where it stands. -/
theorem equalsOperand_self {value : Value} (distinct : value.hasDistinctKeys = true)
    (free : value.isNaNFree = true) : equalsOperand (some value) value = true := by
  have alike := Value.alike_of_equals value (Value.equals_self value distinct free)
  cases value with
  | array items =>
    rw [Value.alike] at alike
    exact alike
  | _ => exact alike

/-! ### Equality of keys -/

section Keys

variable {left right other : Value}

/-- What is the same as a value is the same as every value equal to it. -/
theorem sameKey_of_equals (equal : left.equals right = true) (same : sameKey right other = true) :
    sameKey left other = true := by
  unfold sameKey at same ⊢
  rcases asNumber?_of_equals equal with ⟨first, second⟩ | ⟨former, latter, first, second, numbers⟩
  · rw [second] at same
    rw [first]
    exact Value.equals_trans left equal same
  · rw [second] at same
    rw [first]
    cases number : asNumber? other with
    | none =>
      rw [number] at same
      exact Value.equals_trans left equal same
    | some last =>
      rw [number] at same
      exact Binary64.equals_trans numbers same

theorem sameKey_symm (distinct : left.hasDistinctKeys = true) (same : sameKey left right = true) :
    sameKey right left = true := by
  unfold sameKey at same ⊢
  cases first : asNumber? left <;> cases second : asNumber? right <;> rw [first, second] at same
  case some.some => exact Binary64.equals_symm same
  all_goals exact Value.equals_symm left distinct same

theorem alike_of_sameKey (same : sameKey left right = true) : left.alike right = true := by
  unfold sameKey at same
  cases first : asNumber? left <;> cases second : asNumber? right <;> rw [first, second] at same
  case some.some =>
    rw [alike_eq_equals first second]
    exact same
  all_goals exact Value.alike_of_equals left same

/-- **A key is found by the equality of filters.** -/
theorem equalsOperand_of_sameKey (same : sameKey left right = true) :
    equalsOperand (some left) right = true := by
  have alike := alike_of_sameKey same
  cases left with
  | array items =>
    cases right <;> simp only [sameKey, asNumber?, Value.equals, Bool.false_eq_true] at same
    rw [Value.alike] at alike
    exact alike
  | _ => exact alike

end Keys

/-! ### What filters find of equal values -/

section Filters

variable {left middle right : Value}

theorem sameKey_trans_equals (same : sameKey left middle = true) (equal : middle.equals right = true) :
    sameKey left right = true := by
  unfold sameKey at same ⊢
  rcases asNumber?_of_equals equal with ⟨first, second⟩ | ⟨former, latter, first, second, numbers⟩
  · rw [first] at same
    rw [second]
    cases number : asNumber? left <;> rw [number] at same <;> exact Value.equals_trans left same equal
  · rw [first] at same
    rw [second]
    cases number : asNumber? left with
    | none =>
      rw [number] at same
      exact Value.equals_trans left same equal
    | some start =>
      rw [number] at same
      exact Binary64.equals_trans same numbers

/-- What is alike a value is alike every value equal to it, without further values inside. -/
theorem Value.alikeScalar_trans_equals (alike : left.alikeScalar middle = true)
    (equal : middle.equals right = true) : left.alikeScalar right = true := by
  by_cases discrete : middle.isDiscrete = true
  · obtain rfl := Value.eq_of_equals discrete equal
    exact alike
  · have plain : ∀ value : Value, value.isDiscrete ≠ true →
        left.alikeScalar value = sameKey left value := by
      intro value other
      cases value <;> first | exact absurd rfl other | skip
      all_goals
        unfold Value.alikeScalar
        cases left.text? <;> simp [Value.text?, Value.isNullish]
    have other : right.isDiscrete ≠ true := by
      cases middle <;> first | exact absurd rfl discrete | skip
      all_goals
        cases right <;> simp only [Value.equals, Bool.false_eq_true] at equal
        exact Bool.false_ne_true
    rw [plain middle discrete] at alike
    rw [plain right other]
    exact sameKey_trans_equals alike equal

end Filters

mutual

/-- **What is alike a value is alike every value equal to it.** -/
theorem Value.alike_trans_equals : (left : Value) → {middle right : Value} →
    left.alike middle = true → middle.equals right = true → left.alike right = true
  | .array lefts, middle, right, alike, equal => by
    cases middle with
    | array middles =>
      cases right <;> simp only [Value.equals, Bool.false_eq_true] at equal
      rw [Value.alike] at alike ⊢
      exact Value.alikeItems_trans_equals lefts alike equal
    | _ =>
      simp [Value.alike, Value.alikeScalar, Value.text?, Value.isNullish, sameKey, asNumber?,
        Value.equals] at alike
  | .document lefts, middle, right, alike, equal => by
    cases middle with
    | document middles =>
      cases right <;> simp only [Value.equals, Bool.false_eq_true] at equal
      rw [Value.alike, Bool.and_eq_true, beq_iff_eq] at alike ⊢
      rw [Bool.and_eq_true, beq_iff_eq] at equal
      exact ⟨alike.1.trans equal.1, Value.alikeFields_trans_equals lefts alike.2 equal.2⟩
    | _ =>
      simp [Value.alike, Value.alikeScalar, Value.text?, Value.isNullish, sameKey, asNumber?,
        Value.equals] at alike
  | .null, middle, right, alike, equal
  | .undefined, middle, right, alike, equal
  | .boolean _, middle, right, alike, equal
  | .int32 _, middle, right, alike, equal
  | .int64 _, middle, right, alike, equal
  | .double _, middle, right, alike, equal
  | .string _, middle, right, alike, equal
  | .symbol _, middle, right, alike, equal
  | .objectId _, middle, right, alike, equal
  | .dateTime _, middle, right, alike, equal
  | .binary _ _, middle, right, alike, equal
  | .timestamp _ _, middle, right, alike, equal
  | .regex _ _, middle, right, alike, equal
  | .javaScript _, middle, right, alike, equal
  | .javaScriptWithScope _ _, middle, right, alike, equal
  | .decimal _, middle, right, alike, equal
  | .dbPointer _ _, middle, right, alike, equal
  | .minKey, middle, right, alike, equal
  | .maxKey, middle, right, alike, equal => by
    rw [Value.alike] at alike ⊢
    · exact Value.alikeScalar_trans_equals alike equal
    all_goals exact nofun

/-- `Value.alike_trans_equals` item by item. -/
theorem Value.alikeItems_trans_equals : (lefts : List Value) → {middles rights : List Value} →
    Value.alikeItems lefts middles = true → Value.equalItems middles rights = true →
      Value.alikeItems lefts rights = true
  | [], middles, rights, alike, equal => by
    cases middles with
    | nil =>
      cases rights with
      | nil => rfl
      | cons _ _ => cases equal
    | cons _ _ => cases alike
  | left :: lefts, middles, rights, alike, equal => by
    cases middles with
    | nil => cases alike
    | cons middle middles =>
      cases rights with
      | nil => cases equal
      | cons right rights =>
        rw [Value.alikeItems, Bool.and_eq_true] at alike ⊢
        rw [Value.equalItems, Bool.and_eq_true] at equal
        exact ⟨Value.alike_trans_equals left alike.1 equal.1,
          Value.alikeItems_trans_equals lefts alike.2 equal.2⟩

/-- `Value.alike_trans_equals` field by field. -/
theorem Value.alikeFields_trans_equals : (lefts : List (String × Value)) → {middle right : Document} →
    Value.alikeFields lefts middle = true → Value.fieldsWithin middle right = true →
      Value.alikeFields lefts right = true
  | [], _, _, _, _ => rfl
  | (key, left) :: lefts, middle, right, alike, within => by
    rw [Value.alikeFields, Bool.and_eq_true] at alike ⊢
    refine ⟨?_, Value.alikeFields_trans_equals lefts alike.2 within⟩
    cases found : Document.get? key middle with
    | none =>
      rw [found] at alike
      exact absurd alike.1 Bool.false_ne_true
    | some value =>
      rw [found] at alike
      obtain ⟨last, present, equal⟩ :=
        Value.fieldsWithin_iff.mp within (key, value) (Document.mem_of_get? found)
      rw [present]
      exact Value.alike_trans_equals left alike.1 equal

end

/-- **What a filter finds of an operand, it finds of every value equal to that.** -/
theorem equalsOperand_trans_equals {field : Option Value} {operand other : Value}
    (found : equalsOperand field operand = true) (equal : operand.equals other = true) :
    equalsOperand field other = true := by
  match field with
  | none =>
    have discrete : operand.isDiscrete = true := by
      cases operand <;> first | rfl | cases found
    obtain rfl := Value.eq_of_equals discrete equal
    exact found
  | some (.array items) =>
    cases operand with
    | array operands =>
      cases other <;> simp only [Value.equals, Bool.false_eq_true] at equal
      exact Value.alikeItems_trans_equals items found equal
    | _ =>
      obtain ⟨item, inside, alike⟩ := List.any_eq_true.mp found
      have kept : items.any (·.alike other) = true :=
        List.any_eq_true.mpr ⟨item, inside, Value.alike_trans_equals item alike equal⟩
      cases other <;> simp only [Value.equals, Bool.false_eq_true] at equal
      all_goals exact kept
  | some (.null) | some (.undefined) | some (.boolean _) | some (.int32 _) | some (.int64 _)
  | some (.double _) | some (.string _) | some (.symbol _) | some (.objectId _) | some (.dateTime _)
  | some (.binary _ _) | some (.timestamp _ _) | some (.regex _ _) | some (.javaScript _)
  | some (.javaScriptWithScope _ _) | some (.decimal _) | some (.dbPointer _ _) | some (.minKey)
  | some (.maxKey) | some (.document _) =>
    exact Value.alike_trans_equals _ found equal

end Polystore
