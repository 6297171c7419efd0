/-
**What a list of orders says about documents.**

`Memory.sortOrder` counts values in no order as equal, which is no order where values of several kinds
meet. Where all of them are comparable it is `Memory.totalOrder`, by kind and then within the kind.

* `documentOrder_ofFields`: the sort document of a list of orders compares by the orders one after the
  other, unless one field is asked for in both directions;
* `sorted_eq_sortedBy`: so comparable documents are sorted by an order that is total and transitive.
-/

import Polystore.Memory.Find
import Polystore.Proofs.Filter.Meaning
import Polystore.Proofs.Memory.StableSort

namespace Polystore

open Memory Native

namespace Value

/-- The kinds of values between which there is an order; absent values come first. -/
def sortKind : Value → Nat
  | null | undefined => 0
  | boolean _ => 1
  | dateTime _ => 2
  | objectId _ => 3
  | string _ | symbol _ => 4
  | int32 _ | int64 _ | double _ => 5
  | _ => 6

/-- The number by which a value is ordered within its kind. -/
def sortNumber : Value → Int
  | boolean flag => flag.toNat
  | dateTime millis => millis.toInt
  | objectId identifier => identifier.value.toNat
  | value => (asNumber? value).elim 0 Binary64.key

/-- The text by which a value is ordered within its kind. -/
def sortText (value : Value) : String := value.text?.getD ""

/-- An order of all values that extends the one of each kind. -/
def rank : Value → Value → Ordering :=
  compareLex (compareOn sortKind) (compareLex (compareOn sortNumber) (compareOn sortText))

instance : Std.TransCmp rank := by
  unfold rank
  infer_instance

variable {left right : Value} {order : Ordering}

/-- **Values in an order are ranked by it.** -/
theorem rank_eq_of_order? (ordered : left.order? right = some order) : left.rank right = order := by
  have unfolded (left right : Value) : left.rank right =
      (compare left.sortKind right.sortKind).then
        ((compare left.sortNumber right.sortNumber).then (compare left.sortText right.sortText)) := rfl
  unfold order? at ordered
  split at ordered
  · rename_i left right
    obtain rfl := Option.some.inj ordered
    cases left <;> cases right <;> rfl
  · obtain rfl := Option.some.inj ordered
    simp [unfolded, sortKind, sortNumber, sortText, text?]
  · rename_i left right
    obtain rfl := Option.some.inj ordered
    have whole : compare (left.value.toNat : Int) right.value.toNat =
        compare left.value.toNat right.value.toNat := by
      simp only [compare, compareOfLessAndEq, Int.natCast_inj, Int.ofNat_lt]
    simp [unfolded, sortKind, sortNumber, sortText, text?, ObjectId.order, whole]
  · split at ordered
    · rename_i first second leftText rightText
      obtain rfl := Option.some.inj ordered
      cases left <;> cases leftText <;> cases right <;> cases rightText <;>
        simp [unfolded, sortKind, sortNumber, sortText, text?, asNumber?]
    · split at ordered
      · rename_i first second leftNumber rightNumber
        unfold Binary64.order? at ordered
        split at ordered
        · cases ordered
        · obtain rfl := Option.some.inj ordered
          cases left <;> cases leftNumber <;> cases right <;> cases rightNumber <;>
            simp [unfolded, sortKind, sortNumber, sortText, text?, asNumber?]
      · cases ordered

/-- Absent values come first. -/
theorem rank_eq_lt {left right : Value} (absent : left.isNullish = true)
    (present : right.isNullish = false) : left.rank right = .lt := by
  have unfolded : left.rank right = (compare left.sortKind right.sortKind).then _ := rfl
  have first : compare left.sortKind right.sortKind = .lt := by
    have none : left.sortKind = 0 := by cases left <;> cases absent <;> rfl
    have some : 0 < right.sortKind := by cases right <;> cases present <;> exact Nat.succ_pos _
    rw [none]
    exact Nat.compare_eq_lt.mpr some
  rw [unfolded, first]
  rfl

/-- Absent values are equal. -/
theorem rank_eq_eq {left right : Value} (first : left.isNullish = true)
    (second : right.isNullish = true) : left.rank right = .eq := by
  cases left <;> cases first <;> cases right <;> cases second <;> rfl

end Value

namespace Memory

section Fields

variable {left right : Option Value}

/-- An order of all fields, where an absent one is as null. -/
def totalOrder : Option Value → Option Value → Ordering :=
  along (fun field => field.getD .null) Value.rank

instance : Std.TransCmp totalOrder := inferInstanceAs (Std.TransCmp (along _ Value.rank))

/-- Whether a sort can tell which of two fields comes first: one of them is absent or null, or there is
an order between them. -/
def areComparable (left right : Option Value) : Bool :=
  match left.filter (!·.isNullish), right.filter (!·.isNullish) with
  | some left, some right => (left.order? right).isSome
  | _, _ => true

theorem isNullish_of_filter_eq_none {field : Option Value}
    (empty : field.filter (!·.isNullish) = none) : (field.getD .null).isNullish = true := by
  cases field with
  | none => rfl
  | some value => simpa using empty

theorem eq_of_filter_eq_some {field : Option Value} {value : Value}
    (found : field.filter (!·.isNullish) = some value) :
    field.getD .null = value ∧ value.isNullish = false := by
  obtain ⟨rfl, present⟩ := Option.filter_eq_some_iff.mp found
  exact ⟨rfl, by simpa using present⟩

/-- **Comparable fields are sorted by the total order.** -/
theorem sortOrder_eq_totalOrder (comparable : areComparable left right = true) :
    sortOrder left right = totalOrder left right := by
  show sortOrder left right = (left.getD .null).rank (right.getD .null)
  unfold sortOrder
  unfold areComparable at comparable
  cases first : left.filter (!·.isNullish) with
  | none =>
    have absent := isNullish_of_filter_eq_none first
    cases second : right.filter (!·.isNullish) with
    | none => exact (Value.rank_eq_eq absent (isNullish_of_filter_eq_none second)).symm
    | some value =>
      obtain ⟨same, present⟩ := eq_of_filter_eq_some second
      rw [same]
      exact (Value.rank_eq_lt absent present).symm
  | some value =>
    obtain ⟨same, present⟩ := eq_of_filter_eq_some first
    rw [same]
    cases second : right.filter (!·.isNullish) with
    | none =>
      rw [@Std.OrientedCmp.eq_swap _ Value.rank,
        Value.rank_eq_lt (isNullish_of_filter_eq_none second) present]
      rfl
    | some other =>
      rw [first, second] at comparable
      obtain ⟨order, ordered⟩ := Option.isSome_iff_exists.mp comparable
      rw [(eq_of_filter_eq_some second).1, Value.rank_eq_of_order? ordered]
      show (value.order? other).getD .eq = order
      rw [ordered]
      rfl

theorem areComparable_of_left_absent (absent : left.filter (!·.isNullish) = none) :
    areComparable left right = true := by
  unfold areComparable
  rw [absent]

theorem areComparable_of_right_absent (absent : right.filter (!·.isNullish) = none) :
    areComparable left right = true := by
  unfold areComparable
  rw [absent]
  cases left.filter (!·.isNullish) <;> rfl

/-- Nothing comes before an absent field. -/
theorem isLE_totalOrder_of_absent (absent : left.filter (!·.isNullish) = none) :
    (totalOrder left right).isLE = true := by
  have first := isNullish_of_filter_eq_none absent
  show ((left.getD .null).rank (right.getD .null)).isLE = true
  cases second : (right.getD .null).isNullish with
  | true => rw [Value.rank_eq_eq first second]; rfl
  | false => rw [Value.rank_eq_lt first second]; rfl

end Fields

end Memory

/-! ### Lists of orders -/

namespace Order

section Compare

variable {fields : Option Value → Option Value → Ordering} {orders : List Order} {left right : Document}

/-- How an order compares two documents, given how their fields compare. -/
def compare (fields : Option Value → Option Value → Ordering) (order : Order) (left right : Document) :
    Ordering :=
  match order.direction with
  | .ascending => along (Predicate.fieldOf order.column) fields left right
  | .descending => (along (Predicate.fieldOf order.column) fields left right).swap

/-- How orders compare two documents, the first of them first. -/
def compareAll (fields : Option Value → Option Value → Ordering) : List Order → Document → Document →
    Ordering
  | [], _, _ => .eq
  | order :: rest, left, right =>
    (order.compare fields left right).then (compareAll fields rest left right)

instance [Std.TransCmp fields] (order : Order) : Std.TransCmp (order.compare fields) := by
  obtain ⟨column, direction⟩ := order
  cases direction with
  | ascending => exact inferInstanceAs (Std.TransCmp (along (Predicate.fieldOf column) fields))
  | descending =>
    have turned : compare fields ⟨column, .descending⟩ =
        fun left right => along (Predicate.fieldOf column) fields right left := by
      funext left right
      exact Std.OrientedCmp.eq_swap.symm
    rw [turned]
    exact Std.TransCmp.opposite

instance [Std.TransCmp fields] (orders : List Order) : Std.TransCmp (compareAll fields orders) := by
  induction orders with
  | nil => exact { eq_swap := rfl, isLE_trans := fun _ _ => rfl }
  | cons order rest hypothesis =>
    exact inferInstanceAs (Std.TransCmp (compareLex (order.compare fields) (compareAll fields rest)))

/-- Orders only look at how the fields compare that they name. -/
theorem compareAll_congr {others : Option Value → Option Value → Ordering} {first second : Document}
    (agree : ∀ order ∈ orders, fields (Predicate.fieldOf order.column left)
        (Predicate.fieldOf order.column right) =
      others (Predicate.fieldOf order.column first) (Predicate.fieldOf order.column second)) :
    compareAll fields orders left right = compareAll others orders first second := by
  induction orders with
  | nil => rfl
  | cons order rest hypothesis =>
    rw [compareAll, compareAll, compare, compare, along, along, agree order List.mem_cons_self,
      hypothesis fun other member => agree other (List.mem_cons_of_mem order member)]

/-- A document that lacks every field comes last where all orders are descending. -/
theorem isLE_compareAll_of_absent (descending : ∀ order ∈ orders, order.direction = .descending)
    (absent : ∀ order ∈ orders,
      (Predicate.fieldOf order.column right).filter (!·.isNullish) = none) :
    (compareAll totalOrder orders left right).isLE = true := by
  induction orders with
  | nil => rfl
  | cons order rest hypothesis =>
    have first : (order.compare totalOrder left right).isLE = true := by
      rw [compare, descending order List.mem_cons_self]
      show (totalOrder _ _).swap.isLE = true
      rw [← @Std.OrientedCmp.eq_swap _ totalOrder]
      exact isLE_totalOrder_of_absent (absent order List.mem_cons_self)
    refine Ordering.isLE_then_iff_and.mpr ⟨first, .inr (hypothesis ?_ ?_)⟩
    · exact fun other member => descending other (List.mem_cons_of_mem order member)
    · exact fun other member => absent other (List.mem_cons_of_mem order member)

end Compare

/-- Whether no field is asked for in both directions. -/
def areConsistent (orders : List Order) : Prop :=
  ∀ first ∈ orders, ∀ second ∈ orders, field first.column = field second.column →
    first.direction = second.direction

end Order

namespace Memory

section Sorts

variable {orders : List Order} {left right : Document}

/-- An order as a field of a sort document. -/
def sortField (order : Order) : String × Value :=
  (field order.column, .int32 order.direction.native)

theorem documentOrder_sortField (order : Order) (left right : Document) :
    documentOrder [sortField order] left right = order.compare sortOrder left right := by
  obtain ⟨column, direction⟩ := order
  cases direction with
  | ascending => exact Ordering.then_eq
  | descending => exact Ordering.then_eq

/-- One more field of a sort document decides where the others do not, unless it only repeats one. -/
theorem documentOrder_insert {sort : Document} {key : String} {value : Value}
    (repeated : ∀ old, (key, old) ∈ sort → old = value) :
    documentOrder (Document.insert key value sort) left right =
      (documentOrder sort left right).then (documentOrder [(key, value)] left right) := by
  induction sort with
  | nil => rfl
  | cons entry rest hypothesis =>
    obtain ⟨name, old⟩ := entry
    rw [Document.insert]
    split
    · rename_i same
      subst same
      obtain rfl := repeated old List.mem_cons_self
      simp only [documentOrder, Ordering.then_eq]
      generalize (if isDescending old then _ else _ : Ordering) = own
      cases own <;> simp
    · rw [documentOrder, documentOrder, hypothesis fun other member =>
        repeated other (List.mem_cons_of_mem _ member), Ordering.then_assoc]

/-- **The sort document of a list of orders compares by the orders one after the other.** -/
theorem documentOrder_ofFields (consistent : Order.areConsistent orders) (left right : Document) :
    documentOrder (Document.ofFields (orders.map sortField)) left right =
      Order.compareAll sortOrder orders left right := by
  suffices general : ∀ (rest : List Order) (sort : Document), rest ⊆ orders →
      (∀ entry ∈ sort, ∃ order ∈ orders, entry = sortField order) →
      documentOrder (Document.extend sort (rest.map sortField)) left right =
        (documentOrder sort left right).then (Order.compareAll sortOrder rest left right) by
    exact general orders [] (List.Subset.refl orders) nofun
  intro rest
  induction rest with
  | nil => exact fun sort _ _ => Ordering.then_eq.symm
  | cons order rest hypothesis =>
    intro sort subset known
    have member : order ∈ orders := subset List.mem_cons_self
    have repeated : ∀ old, ((sortField order).1, old) ∈ sort → old = (sortField order).2 := by
      intro old inside
      obtain ⟨other, among, same⟩ := known _ inside
      obtain ⟨column, rfl⟩ := Prod.mk.inj same
      rw [sortField, consistent order member other among column]
    have extended : ∀ entry ∈ Document.insert (sortField order).1 (sortField order).2 sort,
        ∃ order ∈ orders, entry = sortField order := by
      intro entry inside
      rcases Document.mem_of_mem_insert inside with rfl | before
      · exact ⟨order, member, rfl⟩
      · exact known entry before
    have later := hypothesis _ (fun other inside => subset (List.mem_cons_of_mem order inside)) extended
    rw [documentOrder_insert repeated, Ordering.then_assoc] at later
    rw [Order.compareAll, ← documentOrder_sortField]
    exact later

/-- **Comparable documents are sorted by an order that is total and transitive.** -/
theorem sorted_eq_sortedBy {documents : List Document} (consistent : Order.areConsistent orders)
    (comparable : ∀ order ∈ orders, ∀ left ∈ documents, ∀ right ∈ documents,
      areComparable (Predicate.fieldOf order.column left) (Predicate.fieldOf order.column right) = true) :
    sorted (sort orders) documents =
      sortedBy (precedes (Order.compareAll totalOrder orders)) documents := by
  have agree : ∀ left right, left ∈ documents → right ∈ documents →
      documentOrder (Document.ofFields (orders.map sortField)) left right =
        Order.compareAll totalOrder orders left right := by
    intro left right first second
    rw [documentOrder_ofFields consistent]
    exact Order.compareAll_congr fun order member =>
      sortOrder_eq_totalOrder (comparable order member left first right second)
  have same : sortedBy (precedes (documentOrder (Document.ofFields (orders.map sortField)))) documents =
      sortedBy (precedes (Order.compareAll totalOrder orders)) documents :=
    sortedBy_congr fun left first right second => by rw [precedes, precedes, agree left right first second]
  cases orders with
  | nil =>
    -- Where nothing precedes, everything can be left where it is.
    exact (sortedBy_eq_self (List.pairwise_of_forall_mem_list fun _ _ _ _ => rfl)).symm
  | cons order rest =>
    show (stableSort? (precedes (documentOrder (Document.ofFields ((order :: rest).map sortField))))
      documents).getD documents = _
    rw [stableSort?_eq (isTotalPreorder_of_agree agree), same]
    rfl

end Sorts

end Memory

end Polystore
