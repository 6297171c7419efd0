/-
**Values that print alike, and rows with the same key.**

`Value.printed` is one value for all that print alike: every not-a-number is the same.

* `identical_iff`: two values print alike exactly if their printed forms are equal;
* `length_firstPerKey`: of rows with the same key one stays, so there are as many as there are keys.
-/

import Mathlib.Data.Set.Card
import Polystore.Native.Join
import Polystore.Proofs.Value.Equality

namespace Polystore

mutual

/-- The value that stands for all that print like it. -/
def Value.printed : Value → Value
  | .double number => if number.isNaN then .double ⟨0x7ff8000000000000⟩ else .double number
  | .array items => .array (Value.printedItems items)
  | .document fields => .document (Value.printedFields fields)
  | .javaScriptWithScope code scope => .javaScriptWithScope code (Value.printedFields scope)
  | other => other

def Value.printedItems : List Value → List Value
  | [] => []
  | item :: rest => item.printed :: Value.printedItems rest

def Value.printedFields : List (String × Value) → List (String × Value)
  | [] => []
  | (key, value) :: rest => (key, value.printed) :: Value.printedFields rest

end

theorem Value.printedItems_eq_map (items : List Value) : printedItems items = items.map printed := by
  induction items with
  | nil => rfl
  | cons item rest hypothesis => rw [printedItems, hypothesis, List.map_cons]

/-- The field that stands for all that print like it. -/
def Value.printedField (field : String × Value) : String × Value := (field.1, field.2.printed)

theorem Value.printedFields_eq_map (fields : List (String × Value)) :
    printedFields fields = fields.map printedField := by
  induction fields with
  | nil => rfl
  | cons field rest hypothesis =>
    rw [printedFields, hypothesis]
    rfl

/-- The printed form of a discrete value is itself. -/
theorem Value.printed_of_isDiscrete {value : Value} (discrete : value.isDiscrete = true) :
    value.printed = value := by
  cases value <;> cases discrete <;> rfl

theorem Value.isDiscrete_printed (value : Value) : value.printed.isDiscrete = value.isDiscrete := by
  cases value with
  | double number =>
    rw [Value.printed]
    split <;> rfl
  | _ => rfl

theorem Value.identical_iff_of_isDiscrete {left right : Value} (discrete : left.isDiscrete = true) :
    left.identical right = true ↔ left.printed = right.printed := by
  have plain : left.identical right = left.equals right := by
    cases left <;> cases discrete <;> rw [Value.identical] <;> intros <;> contradiction
  rw [plain, Value.printed_of_isDiscrete discrete]
  constructor
  · intro equal
    obtain rfl := Value.eq_of_equals discrete equal
    exact (Value.printed_of_isDiscrete discrete).symm
  · intro same
    have other : right.isDiscrete = true := by rw [← Value.isDiscrete_printed, ← same, discrete]
    rw [Value.printed_of_isDiscrete other] at same
    rw [← same]
    exact Value.equals_self_of_isDiscrete discrete

theorem Value.identical_double_iff {left right : Binary64} :
    (Value.double left).identical (.double right) = true ↔
      (Value.double left).printed = (Value.double right).printed := by
  rw [Value.identical, Binary64.identical, Value.printed, Value.printed, Bool.or_eq_true,
    Bool.and_eq_true, beq_iff_eq]
  have quiet : (⟨0x7ff8000000000000⟩ : Binary64).isNaN = true := by decide
  cases first : left.isNaN <;> cases second : right.isNaN
  · simp
  · have apart : left ≠ right := fun same => by
      rw [same, second] at first
      cases first
    have other : left ≠ ⟨0x7ff8000000000000⟩ := fun same => by
      rw [same, quiet] at first
      cases first
    simp [apart, other]
  · have apart : left ≠ right := fun same => by
      rw [same, second] at first
      cases first
    have other : (⟨0x7ff8000000000000⟩ : Binary64) ≠ right := fun same => by
      rw [← same, quiet] at second
      cases second
    simp [apart, other]
  · simp

mutual

/-- **Two values print alike exactly if their printed forms are equal.** -/
theorem Value.identical_iff : (left : Value) → {right : Value} →
    (left.identical right = true ↔ left.printed = right.printed)
  | .double left, right => by
    cases right with
    | double right => exact Value.identical_double_iff
    | _ =>
      simp only [Value.identical, Value.equals, Value.printed, Bool.false_eq_true, false_iff]
      split <;> exact nofun
  | .array lefts, right => by
    cases right with
    | array rights =>
      rw [Value.identical, Value.identicalItems_iff lefts, Value.printed, Value.printed, Value.array.injEq]
    | double right =>
      simp only [Value.identical, Value.equals, Value.printed, Bool.false_eq_true, false_iff]
      split <;> exact nofun
    | _ =>
      simp only [Value.identical, Value.equals, Value.printed, Bool.false_eq_true, false_iff]
      exact nofun
  | .document lefts, right => by
    cases right with
    | document rights =>
      rw [Value.identical, Value.identicalFields_iff lefts, Value.printed, Value.printed,
        Value.document.injEq]
    | double right =>
      simp only [Value.identical, Value.equals, Value.printed, Bool.false_eq_true, false_iff]
      split <;> exact nofun
    | _ =>
      simp only [Value.identical, Value.equals, Value.printed, Bool.false_eq_true, false_iff]
      exact nofun
  | .javaScriptWithScope code lefts, right => by
    cases right with
    | javaScriptWithScope other rights =>
      rw [Value.identical, Bool.and_eq_true, beq_iff_eq, Value.identicalFields_iff lefts, Value.printed,
        Value.printed, Value.javaScriptWithScope.injEq]
    | double right =>
      simp only [Value.identical, Value.equals, Value.printed, Bool.false_eq_true, false_iff]
      split <;> exact nofun
    | _ =>
      simp only [Value.identical, Value.equals, Value.printed, Bool.false_eq_true, false_iff]
      exact nofun
  | .null, _ | .undefined, _ | .boolean _, _ | .int32 _, _ | .int64 _, _ | .string _, _ | .symbol _, _
  | .objectId _, _ | .dateTime _, _ | .binary _ _, _ | .timestamp _ _, _ | .regex _ _, _
  | .javaScript _, _ | .decimal _, _ | .dbPointer _ _, _ | .minKey, _ | .maxKey, _ =>
    Value.identical_iff_of_isDiscrete rfl

theorem Value.identicalItems_iff : (lefts : List Value) → {rights : List Value} →
    (Value.identicalItems lefts rights = true ↔ Value.printedItems lefts = Value.printedItems rights)
  | [], [] => by simp [Value.identicalItems]
  | [], _ :: _ => by simp [Value.identicalItems, Value.printedItems]
  | _ :: _, [] => by simp [Value.identicalItems, Value.printedItems]
  | left :: lefts, right :: rights => by
    rw [Value.identicalItems, Bool.and_eq_true, Value.identical_iff left,
      Value.identicalItems_iff lefts, Value.printedItems, Value.printedItems, List.cons_eq_cons]

theorem Value.identicalFields_iff : (lefts : List (String × Value)) → {rights : List (String × Value)} →
    (Value.identicalFields lefts rights = true ↔
      Value.printedFields lefts = Value.printedFields rights)
  | [], [] => by simp [Value.identicalFields]
  | [], _ :: _ => by simp [Value.identicalFields, Value.printedFields]
  | _ :: _, [] => by simp [Value.identicalFields, Value.printedFields]
  | (leftKey, left) :: lefts, (rightKey, right) :: rights => by
    rw [Value.identicalFields, Bool.and_eq_true, Bool.and_eq_true, beq_iff_eq,
      Value.identical_iff left, Value.identicalFields_iff lefts, Value.printedFields,
      Value.printedFields, List.cons_eq_cons, Prod.mk.injEq]

end

namespace Native

/-- The values of columns in a row, as they print. -/
def printedKey (columns : List String) (row : Document) : List Value :=
  Value.printedItems (rowKey columns row)

section FirstPerKey

variable {columns : List String} {seen : List (List Value)} {row : Document} {rows : List Document}

/-- Whether a key is among the known ones is decided by how it prints. -/
theorem isSeen_iff : seen.any (Value.identicalItems (rowKey columns row)) = true ↔
    printedKey columns row ∈ seen.map Value.printedItems := by
  rw [List.any_eq_true, List.mem_map]
  refine exists_congr fun key => and_congr_right' ?_
  rw [Value.identicalItems_iff, eq_comm]
  rfl

/-- A row with a known key does not stay. -/
theorem firstPerKeyFrom_of_mem (known : printedKey columns row ∈ seen.map Value.printedItems)
    (rest : List Document) :
    firstPerKeyFrom columns seen (row :: rest) = firstPerKeyFrom columns seen rest := by
  rw [firstPerKeyFrom]
  exact if_pos (isSeen_iff.mpr known)

/-- A row with a new key stays, and its key is known from then on. -/
theorem firstPerKeyFrom_of_not_mem (new : printedKey columns row ∉ seen.map Value.printedItems)
    (rest : List Document) :
    firstPerKeyFrom columns seen (row :: rest) =
      row :: firstPerKeyFrom columns (rowKey columns row :: seen) rest := by
  rw [firstPerKeyFrom]
  exact if_neg (isSeen_iff.not.mpr new)

/-- The keys of rows that differ from the known ones, as they print. -/
def newKeys (columns : List String) (seen : List (List Value)) (rows : List Document) : Set (List Value) :=
  {key | key ∈ rows.map (printedKey columns) ∧ key ∉ seen.map Value.printedItems}

theorem finite_newKeys (columns : List String) (seen : List (List Value)) (rows : List Document) :
    (newKeys columns seen rows).Finite :=
  (rows.map (printedKey columns)).finite_toSet.subset fun _ member => member.1

theorem length_firstPerKeyFrom (columns : List String) (seen : List (List Value)) (rows : List Document) :
    (firstPerKeyFrom columns seen rows).length = (newKeys columns seen rows).ncard := by
  induction rows generalizing seen with
  | nil => simp [firstPerKeyFrom, newKeys]
  | cons row rest hypothesis =>
    by_cases present : printedKey columns row ∈ seen.map Value.printedItems
    · have nothing : newKeys columns seen (row :: rest) = newKeys columns seen rest := by
        ext key
        simp only [newKeys, List.map_cons, List.mem_cons, Set.mem_ofPred_eq]
        constructor
        · rintro ⟨rfl | among, absent⟩
          · exact absurd present absent
          · exact ⟨among, absent⟩
        · exact fun ⟨among, absent⟩ => ⟨.inr among, absent⟩
      rw [firstPerKeyFrom_of_mem present, hypothesis, nothing]
    · have added : newKeys columns seen (row :: rest) =
          insert (printedKey columns row) (newKeys columns (rowKey columns row :: seen) rest) := by
        ext key
        simp only [newKeys, List.map_cons, List.mem_cons, Set.mem_ofPred_eq, Set.mem_insert_iff, not_or]
        constructor
        · rintro ⟨same | among, absent⟩
          · exact .inl same
          · exact or_iff_not_imp_left.mpr fun other => ⟨among, other, absent⟩
        · rintro (rfl | ⟨among, _, absent⟩)
          · exact ⟨.inl rfl, present⟩
          · exact ⟨.inr among, absent⟩
      have new : printedKey columns row ∉ newKeys columns (rowKey columns row :: seen) rest :=
        fun member => member.2 List.mem_cons_self
      rw [firstPerKeyFrom_of_not_mem present, List.length_cons, hypothesis, added,
        Set.ncard_insert_of_notMem new (finite_newKeys _ _ _)]

/-- **As many rows stay as there are keys.** -/
theorem length_firstPerKey (columns : List String) (rows : List Document) :
    (firstPerKey columns rows).length = (printedKey columns '' {row | row ∈ rows}).ncard := by
  rw [firstPerKey, length_firstPerKeyFrom]
  congr 1
  ext key
  simp [newKeys]

end FirstPerKey

end Native

end Polystore
