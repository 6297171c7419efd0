/-
**How the store compares whole numbers of 64 bits.**

Filters, sorts and joins all turn whole numbers into doubles before they compare them, so they see the
numbers after rounding.

* `compares_of_order?`: two numbers are compared everywhere by the order of the doubles made of them;
* `compares_rounded`: so whole numbers are compared everywhere by their order after rounding, which is
  their own order unless two different ones become the same double.
-/

import Polystore.Proofs.Filter.Meaning
import Polystore.Proofs.Joins.Relational
import Polystore.Proofs.Statement.Truth
import Polystore.Proofs.Value.Equality

namespace Polystore.Memory

open Native Binary64

/-- **How the store compares two values**, wherever it compares any. -/
structure Compares (left right : Value) (order : Ordering) : Prop where
  /-- A filter of one operator on a field that holds the first value. -/
  operator : ∀ (document : Document) (name : String) (operator : Operator),
    Text.startsWith "$" name = false → Document.atPath? name document = some left →
      passes document [(name, .document [(operator.native, right)])] = .ok (operator.accepts order)
  /-- A filter that lists the second value, or all that it excludes. -/
  listed : ∀ (document : Document) (name : String) (negated : Bool),
    Text.startsWith "$" name = false → Document.atPath? name document = some left →
      passes document [(name, .document [(if negated then "$nin" else "$in", .array [right])])] =
        .ok (negated != (order == .eq))
  /-- The order of two fields in a sort. -/
  sorted : sortOrder (some left) (some right) = order
  /-- A join of rows by their keys: a base row and a joined row make a row if these are equal. -/
  joined : ∀ (join : Join) (rows others : List Document) (base : Fin rows.length)
      (partner : Fin others.length), join.kind ≠ .cross →
    Document.lookup? join.localKey (rows.get base) = some left →
      Document.get? join.foreignKey (others.get partner) = some right →
        joinRows join rows others = (origins join rows others).map (Origin.row join rows others) ∧
          (Origin.both base partner ∈ origins join rows others ↔ order = .eq)

namespace Compares

variable {left right : Value} {order other : Ordering}

/-- Values are compared in one way only. -/
theorem order_eq (first : Compares left right order) (second : Compares left right other) :
    order = other := first.sorted.symm.trans second.sorted

end Compares

section Numbers

variable {left right : Value} {first second : Binary64} {order : Ordering}

/-- Numbers are ordered as the doubles made of them. -/
theorem order?_eq_order? (former : asNumber? left = some first) (latter : asNumber? right = some second) :
    left.order? right = first.order? second := by
  cases left <;> cases former <;> cases right <;> cases latter <;> rfl

/-- A number is no array, so operators look at the number itself. -/
theorem holds_of_order? (former : asNumber? left = some first) (latter : asNumber? right = some second)
    (ordered : first.order? second = some order) (operator : Operator) :
    operator.holds (some left) right = operator.accepts order := by
  have compared (accepted : Ordering → Bool) :
      comparesWith accepted (some left) right = accepted order := by
    have values : left.order? right = some order := (order?_eq_order? former latter).trans ordered
    cases left <;> cases former <;> simp only [comparesWith, values, Option.any_some]
  have equal : equalsOperand (some left) right = (order == .eq) := by
    have values : left.alike right = (order == .eq) := by
      rw [alike_eq_equals former latter, Binary64.equals, ordered]
      rfl
    rw [← values]
    cases left <;> cases former <;> rfl
  cases operator <;> simp only [Operator.holds, Operator.accepts, compared, equal, bne]

/-- A filter of one operator on a field decides what the operator finds there. -/
theorem passes_operator {document : Document} {name operator : String} {operand : Value} {truth : Bool}
    (plain : Text.startsWith "$" name = false) (operates : Text.startsWith "$" operator = true)
    (single : operator ≠ "$not")
    (decided : ∀ options, operatorHolds (Document.atPath? name document) options operator operand =
      .ok truth) :
    passes document [(name, .document [(operator, operand)])] = .ok truth := by
  have operators : isOperators [(operator, operand)] = true := operates
  rw [passes_operators plain operators, operatorsHold_singleton single (decided _)]

/-- **Numbers are compared everywhere by the order of the doubles made of them.** -/
theorem compares_of_order? (former : asNumber? left = some first) (latter : asNumber? right = some second)
    (ordered : first.order? second = some order) : Compares left right order := by
  have holds := holds_of_order? former latter ordered
  have present : left.isNullish = false := by
    cases left <;> first | rfl | cases former
  refine ⟨fun document name operator plain found => ?_, fun document name negated plain found => ?_, ?_,
    fun join rows others base partner keyed looked stored =>
      ⟨joinRows_eq_map_origins join rows others, ?_⟩⟩
  · rw [← holds operator]
    cases operator <;> exact passes_operator plain (by decide) (by decide) fun _ => by rw [found]; rfl
  · have equal : equalsOperand (some left) right = (order == .eq) := holds .equal
    have listed : [right].any (equalsOperand (some left)) = (order == .eq) := by
      rw [List.any_cons, List.any_nil, Bool.or_false, equal]
    rw [← listed]
    cases negated with
    | false =>
      rw [Bool.false_bne]
      exact passes_operator plain (by decide) (by decide) fun _ => by rw [found]; rfl
    | true =>
      rw [Bool.true_bne]
      exact passes_operator plain (by decide) (by decide) fun _ => by rw [found]; rfl
  · have values : left.order? right = some order := (order?_eq_order? former latter).trans ordered
    have other : right.isNullish = false := by
      cases right <;> first | rfl | cases latter
    simp [sortOrder, Option.filter, present, other, values]
  · have same : sameKey left right = true ↔ order = .eq := by
      simp [sameKey, former, latter, Binary64.equals, ordered]
    rw [mem_origins, Origin.Belongs, or_iff_right keyed, ← same]
    constructor
    · rintro ⟨own, foreign, looked', -, stored', matched⟩
      obtain rfl := Option.some.inj (looked.symm.trans looked')
      obtain rfl := Option.some.inj (stored.symm.trans stored')
      exact matched
    · exact fun matched => ⟨left, right, looked, present, stored, matched⟩

end Numbers

/-! ### Whole numbers of 64 bits -/

section Whole

variable (left right : Int64)

theorem natAbs_toInt_lt (number : Int64) : number.toInt.natAbs < 2 ^ 64 := by
  have least := number.le_toInt
  have most := number.toInt_lt
  omega

/-- Whole numbers are compared everywhere by their order after rounding. -/
theorem compares_int64 :
    Compares (.int64 left) (.int64 right) (compare (rounded left.toInt) (rounded right.toInt)) :=
  compares_of_order? rfl rfl (order?_ofInt_rounded (natAbs_toInt_lt left) (natAbs_toInt_lt right))

/-- Whole numbers are compared as such if no two different ones become the same double. -/
theorem compares_exactly_iff :
    Compares (.int64 left) (.int64 right) (compare left.toInt right.toInt) ↔
      (rounded left.toInt = rounded right.toInt → left = right) := by
  rw [← Int64.toInt_inj, ← compare_rounded_eq_iff]
  refine ⟨(compares_int64 left right).order_eq, fun same => ?_⟩
  rw [← same]
  exact compares_int64 left right

/-- **Whole numbers are compared everywhere by their order after rounding**, each to the nearest double
and of two that are equally near to the one with the even significand. Rounding turns no order round, so
this is the order of the numbers themselves unless they are different and become the same double, which
they do not up to `2 ^ 53`. -/
theorem compares_rounded :
    Compares (.int64 left) (.int64 right) (compare (rounded left.toInt) (rounded right.toInt)) ∧
    IsNearest left.toInt (rounded left.toInt) ∧
    (left.toInt ≤ right.toInt → rounded left.toInt ≤ rounded right.toInt) ∧
    (Compares (.int64 left) (.int64 right) (compare left.toInt right.toInt) ↔
      (rounded left.toInt = rounded right.toInt → left = right)) ∧
    (left.toInt.natAbs ≤ exactLimit → right.toInt.natAbs ≤ exactLimit →
      Compares (.int64 left) (.int64 right) (compare left.toInt right.toInt)) := by
  refine ⟨compares_int64 left right, isNearest_rounded _, fun less => rounded_mono less,
    compares_exactly_iff left right, fun leftSmall rightSmall => ?_⟩
  refine (compares_exactly_iff left right).mpr fun same => Int64.toInt_inj.mp ?_
  rwa [rounded_eq_self_iff.mpr (isDouble_of_le leftSmall),
    rounded_eq_self_iff.mpr (isDouble_of_le rightSmall)] at same

theorem compares_rounded_neighbours :
    passes [("n", .int64 9007199254740992)] [("n", .document [("$eq", .int64 9007199254740993)])] =
      .ok true ∧
    passes [("n", .int64 9007199254740993)] [("n", .document [("$nin", .array [.int64 9007199254740996])])] =
      .ok true ∧
    sortOrder (some (.int64 9007199254740993)) (some (.int64 9007199254740994)) = .lt ∧
    Origin.both 0 0 ∈ origins (.keyed .inner "t" "k" "f")
      [[("k", .int64 9007199254740992)]] [[("f", .int64 9007199254740993)]] ∧
    rounded 7 ≤ rounded 9 ∧ Compares (.int64 7) (.int64 9) .lt := by
  refine ⟨?_, ?_, ?_, ?_, (compares_rounded 7 9).2.2.1 (by decide),
    (compares_rounded 7 9).2.2.2.2 (by decide) (by decide)⟩
  · exact (compares_rounded 9007199254740992 9007199254740993).1.operator _ "n" .equal (by decide) rfl
  · exact (compares_rounded 9007199254740993 9007199254740996).1.listed _ "n" true (by decide) rfl
  · exact (compares_rounded 9007199254740993 9007199254740994).1.sorted
  · exact ((compares_rounded 9007199254740992 9007199254740993).1.joined _ _ _ 0 0 (by decide) rfl rfl).2.mpr
      (by decide +kernel)

/-- Two whole numbers that are next to each other can be the same to the store. -/
theorem not_compares_exactly :
    ¬ ∀ left right : Int64, Compares (.int64 left) (.int64 right) (compare left.toInt right.toInt) := by
  intro exactly
  have same := (compares_exactly_iff 9007199254740992 9007199254740993).mp (exactly _ _) (by decide +kernel)
  exact absurd same (by decide)

end Whole

end Polystore.Memory
