/-
**Sorting by an order.**

`Memory.sortedBy` asks for nothing but a test. Where the test is `.lt` of an order that is total and
transitive, it sorts, and it is stable:

* `pairwise_sortedBy`: the sorted items are in order;
* `filter_sortedBy`: the items that are equal to a given one stay in the order in which they were;
* `eq_sortedBy`: no other rearrangement has both properties;
* `sortedBy_opposite`, `sortedBy_append_sortedBy`, `sortedBy_parted`: so lists can be sorted from behind,
  half by half, or parted at an item;
* `sortedBy_flatMap`: so items can be sorted before or after each of them is replaced by several that
  compare as it does;
* `sortedBy_append`: and items that nothing is greater than can be left behind the sorted ones.
-/

import Polystore.Memory.SmallSort

namespace Polystore.Memory

variable {α β : Type}

/-- The test of an order that sorting asks for. -/
def precedes (order : α → α → Ordering) (left right : α) : Bool := order left right == .lt

/-- The order of items by something that is read off them. -/
def along (reading : β → α) (order : α → α → Ordering) (left right : β) : Ordering :=
  order (reading left) (reading right)

instance {order : α → α → Ordering} [Std.TransCmp order] (reading : β → α) :
    Std.TransCmp (along reading order) where
  eq_swap {left right} := @Std.OrientedCmp.eq_swap α order _ (reading left) (reading right)
  isLE_trans {left middle right} :=
    @Std.TransCmp.isLE_trans α order _ (reading left) (reading middle) (reading right)

/-! ### Tests that agree -/

section Tests

variable {first second : α → α → Bool}

theorem settled_congr {item : α} {placed : List α}
    (agree : ∀ other ∈ placed, first item other = second item other) :
    settled first item placed = settled second item placed := by
  induction placed with
  | nil => rfl
  | cons last others hypothesis =>
    rw [settled, settled, agree last List.mem_cons_self,
      hypothesis fun other member => agree other (List.mem_cons_of_mem last member)]

/-- Only the test on the sorted items matters. -/
theorem sortedBy_congr {items : List α}
    (agree : ∀ left ∈ items, ∀ right ∈ items, first left right = second left right) :
    sortedBy first items = sortedBy second items := by
  suffices general : ∀ rest placed : List α, rest ⊆ items → placed ⊆ items →
      rest.foldl (fun placed item => settled first item placed) placed =
        rest.foldl (fun placed item => settled second item placed) placed by
    rw [sortedBy, sortedBy, general items [] (List.Subset.refl items) (List.nil_subset items)]
  intro rest
  induction rest with
  | nil => exact fun placed _ _ => rfl
  | cons item rest hypothesis =>
    intro placed inside known
    have member : item ∈ items := inside List.mem_cons_self
    have moved : settled first item placed ⊆ items := by
      intro other among
      rcases List.mem_cons.mp ((perm_settled first item placed).subset among) with rfl | before
      · exact member
      · exact known before
    show rest.foldl _ (settled first item placed) = rest.foldl _ (settled second item placed)
    rw [← settled_congr fun other among => agree item member other (known among)]
    exact hypothesis _ (fun other later => inside (List.mem_cons_of_mem item later)) moved

end Tests

/-! ### What is read off items -/

section Readings

variable {order : α → α → Ordering}

/-- What is read off items can be read off before they are settled. -/
theorem map_settled (reading : β → α) (item : β) (placed : List β) :
    (settled (precedes (along reading order)) item placed).map reading =
      settled (precedes order) (reading item) (placed.map reading) := by
  induction placed with
  | nil => rfl
  | cons last others hypothesis =>
    rw [List.map_cons, settled, settled]
    by_cases passed : precedes (along reading order) item last = true
    · have same : precedes order (reading item) (reading last) = true := passed
      rw [if_pos passed, if_pos same, List.map_cons, hypothesis]
    · have same : ¬ precedes order (reading item) (reading last) = true := passed
      rw [if_neg passed, if_neg same, List.map_cons, List.map_cons]

/-- **What is read off items can be read off before they are sorted.** -/
theorem map_sortedBy (reading : β → α) (items : List β) :
    (sortedBy (precedes (along reading order)) items).map reading =
      sortedBy (precedes order) (items.map reading) := by
  suffices general : ∀ placed : List β,
      (items.foldl (fun placed item => settled (precedes (along reading order)) item placed) placed).map
          reading =
        (items.map reading).foldl (fun placed item => settled (precedes order) item placed)
          (placed.map reading) by
    rw [sortedBy, sortedBy, List.map_reverse, general []]
    rfl
  induction items with
  | nil => exact fun placed => rfl
  | cons item rest hypothesis =>
    intro placed
    rw [List.foldl_cons, hypothesis, map_settled]
    rfl

end Readings

/-! ### Arrangements -/

/-- An item is settled among arranged ones, which stand last one first, where those that it moves past may
stand behind it, those that it does not move past in front of it, and no third one comes in between. -/
theorem pairwise_settled_of {precedes : α → α → Bool} {mayPrecede : α → α → Prop} {item : α}
    {placed : List α} (passes : ∀ other ∈ placed, precedes item other = true → mayPrecede item other)
    (stays : ∀ other ∈ placed, ¬ precedes item other = true → mayPrecede other item)
    (transitive : ∀ first ∈ placed, ∀ second ∈ placed, mayPrecede first second → mayPrecede second item →
      mayPrecede first item)
    (arranged : placed.Pairwise fun later earlier => mayPrecede earlier later) :
    (settled precedes item placed).Pairwise fun later earlier => mayPrecede earlier later := by
  induction placed with
  | nil => exact List.pairwise_singleton _ item
  | cons last others hypothesis =>
    obtain ⟨before, rest⟩ := List.pairwise_cons.mp arranged
    have inside {other : α} (member : other ∈ others) : other ∈ last :: others :=
      List.mem_cons_of_mem last member
    unfold settled
    by_cases passed : precedes item last = true
    · rw [if_pos passed]
      refine List.pairwise_cons.mpr ⟨fun other member => ?_, hypothesis ?_ ?_ ?_ rest⟩
      · rcases List.mem_cons.mp ((perm_settled _ item others).subset member) with rfl | member
        · exact passes last List.mem_cons_self passed
        · exact before other member
      · exact fun other member => passes other (inside member)
      · exact fun other member => stays other (inside member)
      · exact fun first former second latter => transitive first (inside former) second (inside latter)
    · rw [if_neg passed]
      have next : mayPrecede last item := stays last List.mem_cons_self passed
      refine List.pairwise_cons.mpr ⟨fun other member => ?_, arranged⟩
      rcases List.mem_cons.mp member with rfl | member
      · exact next
      · exact transitive other (inside member) last List.mem_cons_self (before other member) next

/-! ### The stable sort -/

section Stable

variable {order : α → α → Ordering} [Std.TransCmp order] {items others : List α}

/-- What does not precede is preceded or equal. -/
theorem isLE_of_not_precedes {left right : α} (not : ¬ precedes order left right = true) :
    (order right left).isLE = true := by
  rw [precedes, beq_iff_eq] at not
  rw [@Std.OrientedCmp.eq_swap _ order]
  cases compared : order left right with
  | lt => exact absurd compared not
  | eq => rfl
  | gt => rfl

/-- An item is settled in order. The items stand last one first. -/
theorem pairwise_settled (item : α) {placed : List α}
    (ordered : placed.Pairwise fun later earlier => (order earlier later).isLE = true) :
    (settled (precedes order) item placed).Pairwise
      fun later earlier => (order earlier later).isLE = true := by
  refine pairwise_settled_of (fun other _ passed => ?_) (fun other _ stays => isLE_of_not_precedes stays)
    (fun first _ second _ before next => Std.TransCmp.isLE_trans before next) ordered
  rw [eq_of_beq passed]
  rfl

/-- **Sorted items are in order.** -/
theorem pairwise_sortedBy (items : List α) :
    (sortedBy (precedes order) items).Pairwise fun left right => (order left right).isLE = true := by
  suffices general : ∀ placed : List α,
      placed.Pairwise (fun later earlier => (order earlier later).isLE = true) →
        (items.foldl (fun placed item => settled (precedes order) item placed) placed).Pairwise
          fun later earlier => (order earlier later).isLE = true from
    List.pairwise_reverse.mpr (general [] .nil)
  induction items with
  | nil => exact fun placed ordered => ordered
  | cons item rest hypothesis => exact fun placed ordered => hypothesis _ (pairwise_settled item ordered)

/-- Settling an item moves it past none that is equal to it. -/
theorem filter_settled (wanted item : α) (placed : List α) :
    (settled (precedes order) item placed).filter (order wanted · == .eq) =
      (item :: placed).filter (order wanted · == .eq) := by
  induction placed with
  | nil => rfl
  | cons last others hypothesis =>
    unfold settled
    split
    · rename_i passed
      rw [List.filter_cons, hypothesis]
      by_cases same : order wanted item = .eq
      · -- The items that it moves past are greater than it, so none of them is wanted as well.
        have apart : order wanted last = .lt := by
          rw [Std.TransCmp.congr_left same]
          exact eq_of_beq passed
        simp [same, apart]
      · simp [same, List.filter_cons]
    · rfl

/-- **Sorting is stable**: equal items stay in the order in which they were. -/
theorem filter_sortedBy (wanted : α) (items : List α) :
    (sortedBy (precedes order) items).filter (order wanted · == .eq) =
      items.filter (order wanted · == .eq) := by
  suffices general : ∀ placed : List α,
      (items.foldl (fun placed item => settled (precedes order) item placed) placed).filter
          (order wanted · == .eq) =
        (items.filter (order wanted · == .eq)).reverse ++ placed.filter (order wanted · == .eq) by
    rw [sortedBy, List.filter_reverse, general []]
    simp
  induction items with
  | nil => exact fun placed => rfl
  | cons item rest hypothesis =>
    intro placed
    rw [List.foldl_cons, hypothesis, filter_settled, List.filter_cons, List.filter_cons]
    split <;> simp

/-- Two lists in order with the same items in every class of equal ones are the same. -/
theorem eq_of_pairwise_of_filter {first second : List α}
    (firstOrdered : first.Pairwise fun left right => (order left right).isLE = true)
    (secondOrdered : second.Pairwise fun left right => (order left right).isLE = true)
    (permuted : first.Perm second)
    (classes : ∀ wanted ∈ first,
      first.filter (order wanted · == .eq) = second.filter (order wanted · == .eq)) :
    first = second := by
  induction first generalizing second with
  | nil => exact (List.nil_perm.mp permuted).symm
  | cons head rest hypothesis =>
    cases second with
    | nil => exact absurd permuted.length_eq (Nat.succ_ne_zero _)
    | cons other others =>
      -- Each of the two heads is at most the other one, so they lead one class.
      have before : (order head other).isLE = true := by
        rcases List.mem_cons.mp (permuted.symm.subset List.mem_cons_self) with rfl | member
        · exact Std.ReflCmp.isLE_rfl
        · exact (List.pairwise_cons.mp firstOrdered).1 other member
      have after : (order other head).isLE = true := by
        rcases List.mem_cons.mp (permuted.subset List.mem_cons_self) with rfl | member
        · exact Std.ReflCmp.isLE_rfl
        · exact (List.pairwise_cons.mp secondOrdered).1 head member
      have same : order head other = .eq := Std.OrientedCmp.isLE_antisymm before after
      have reflexive : order head head = .eq := Std.ReflCmp.compare_self
      have leading := classes head List.mem_cons_self
      rw [List.filter_cons_of_pos (by simp [reflexive]), List.filter_cons_of_pos (by simp [same])]
        at leading
      obtain ⟨rfl, _⟩ := List.cons.inj leading
      refine congrArg (head :: ·) (hypothesis (List.pairwise_cons.mp firstOrdered).2
        (List.pairwise_cons.mp secondOrdered).2 permuted.cons_inv fun wanted member => ?_)
      have whole := classes wanted (List.mem_cons_of_mem head member)
      rw [List.filter_cons, List.filter_cons] at whole
      split at whole
      · exact (List.cons.inj whole).2
      · exact whole

/-- **There is one stable sort**: a rearrangement in order that leaves equal items in theirs. -/
theorem eq_sortedBy (permuted : others.Perm items)
    (ordered : others.Pairwise fun left right => (order left right).isLE = true)
    (stable : ∀ wanted ∈ others,
      others.filter (order wanted · == .eq) = items.filter (order wanted · == .eq)) :
    others = sortedBy (precedes order) items := by
  refine eq_of_pairwise_of_filter ordered (pairwise_sortedBy items)
    (permuted.trans (perm_sortedBy _ items).symm) fun wanted member => ?_
  rw [stable wanted member, filter_sortedBy]

/-- Items in order are sorted. -/
theorem sortedBy_eq_self (ordered : items.Pairwise fun left right => (order left right).isLE = true) :
    sortedBy (precedes order) items = items :=
  (eq_sortedBy (.refl _) ordered fun _ _ => rfl).symm

/-- **Sorting from behind** by the opposite order arranges items the other way round. -/
theorem sortedBy_opposite (items : List α) :
    sortedBy (precedes fun left right => order right left) items.reverse =
      (sortedBy (precedes order) items).reverse := by
  have : Std.TransCmp fun left right => order right left := Std.TransCmp.opposite
  symm
  refine eq_sortedBy ?_ (List.pairwise_reverse.mpr (pairwise_sortedBy items)) fun wanted _ => ?_
  · exact (List.reverse_perm _).trans ((perm_sortedBy _ items).trans (List.reverse_perm _).symm)
  · have turned (other : α) : (order other wanted == .eq) = (order wanted other == .eq) := by
      rw [@Std.OrientedCmp.eq_swap _ order]
      cases order wanted other <;> rfl
    simp only [turned, List.filter_reverse, filter_sortedBy]

/-- **Two parts can be sorted each on its own first.** -/
theorem sortedBy_append_sortedBy (items others : List α) :
    sortedBy (precedes order) (sortedBy (precedes order) items ++ sortedBy (precedes order) others) =
      sortedBy (precedes order) (items ++ others) := by
  refine eq_sortedBy ?_ (pairwise_sortedBy _) fun wanted _ => ?_
  · exact (perm_sortedBy _ _).trans ((perm_sortedBy _ items).append (perm_sortedBy _ others))
  · rw [filter_sortedBy, List.filter_append, List.filter_append, filter_sortedBy, filter_sortedBy]

/-- A test that all items pass or all fail leaves them together. -/
theorem filter_append_of_constant {keeps : α → Bool} (flag : Bool)
    (constant : ∀ item ∈ items, keeps item = flag) :
    items.filter keeps ++ items.filter (fun item => !keeps item) = items := by
  cases flag with
  | true =>
    rw [List.filter_eq_self.mpr constant, List.filter_eq_nil_iff.mpr, List.append_nil]
    exact fun item member => by simp [constant item member]
  | false =>
    rw [List.filter_eq_nil_iff.mpr, List.filter_eq_self.mpr, List.nil_append]
    · exact fun item member => by simp [constant item member]
    · exact fun item member => by simp [constant item member]

/-- **Items can be parted by a test** if those that pass it are less than the others. -/
theorem sortedBy_parted {keeps : α → Bool} (less : ∀ left ∈ items, ∀ right ∈ items, keeps left = true →
      keeps right = false → order left right = .lt) :
    sortedBy (precedes order) (items.filter keeps) ++
        sortedBy (precedes order) (items.filter fun item => !keeps item) =
      sortedBy (precedes order) items := by
  refine eq_sortedBy ?_ ?_ fun wanted among => ?_
  · exact ((perm_sortedBy _ _).append (perm_sortedBy _ _)).trans (List.filter_append_perm keeps items)
  · refine List.pairwise_append.mpr ⟨pairwise_sortedBy _, pairwise_sortedBy _, ?_⟩
    intro left former right latter
    obtain ⟨inLeft, kept⟩ := List.mem_filter.mp ((perm_sortedBy _ _).subset former)
    obtain ⟨inRight, dropped⟩ := List.mem_filter.mp ((perm_sortedBy _ _).subset latter)
    rw [less left inLeft right inRight kept (by simpa using dropped)]
    rfl
  · have inside : wanted ∈ items := (List.filter_append_perm keeps items).subset
      (((perm_sortedBy _ _).append (perm_sortedBy _ _)).subset among)
    -- Equal items pass the test together.
    have together : ∀ other ∈ items, order wanted other = .eq → keeps other = keeps wanted := by
      intro other member equal
      cases kept : keeps wanted <;> cases keptToo : keeps other <;> try rfl
      · have before := less other member wanted inside keptToo kept
        rw [@Std.OrientedCmp.eq_swap _ order, equal] at before
        cases before
      · have before := less wanted inside other member kept keptToo
        rw [equal] at before
        cases before
    have swapped (test : α → Bool) : (items.filter test).filter (order wanted · == .eq) =
        (items.filter (order wanted · == .eq)).filter test := by
      simp only [List.filter_filter, Bool.and_comm]
    rw [List.filter_append, filter_sortedBy, filter_sortedBy, swapped, swapped]
    refine filter_append_of_constant (keeps wanted) fun other member => ?_
    obtain ⟨listed, equal⟩ := List.mem_filter.mp member
    exact together other listed (eq_of_beq equal)

/-- **Items that nothing is greater than can be left behind the sorted ones.** -/
theorem sortedBy_append (last : ∀ other ∈ others, ∀ item ∈ items ++ others,
      (order item other).isLE = true) :
    sortedBy (precedes order) (items ++ others) = sortedBy (precedes order) items ++ others := by
  symm
  refine eq_sortedBy ((perm_sortedBy _ items).append_right others) ?_ fun wanted _ => ?_
  · refine List.pairwise_append.mpr ⟨pairwise_sortedBy items, ?_, ?_⟩
    · refine List.pairwise_of_forall_mem_list fun item inside other member => ?_
      exact last other member item (List.mem_append_right items inside)
    · intro item inside other member
      exact last other member item
        (List.mem_append_left others ((perm_sortedBy _ items).subset inside))
  · rw [List.filter_append, List.filter_append, filter_sortedBy]

end Stable

/-! ### Items in parts -/

section Parts

variable {parts : α → List β} {items : List α}

/-- A test that decides the parts of an item all together can be made on the items. -/
theorem filter_flatMap_of_forall {keepsPart : β → Bool} {keeps : α → Bool}
    (agree : ∀ item ∈ items, ∀ part ∈ parts item, keepsPart part = keeps item) :
    (items.flatMap parts).filter keepsPart = (items.filter keeps).flatMap parts := by
  induction items with
  | nil => rfl
  | cons item rest hypothesis =>
    have each := agree item List.mem_cons_self
    rw [List.flatMap_cons, List.filter_append,
      hypothesis fun other member => agree other (List.mem_cons_of_mem item member), List.filter_cons]
    split
    · rename_i kept
      rw [List.filter_eq_self.mpr fun part member => by rw [each part member, kept], List.flatMap_cons]
    · rename_i dropped
      rw [List.filter_eq_nil_iff.mpr fun part member => by rwa [each part member], List.nil_append]

/-- **Items can be sorted before each of them is replaced by others that compare as it does.** -/
theorem sortedBy_flatMap {order : α → α → Ordering} {refined : β → β → Ordering}
    [Std.TransCmp order] [Std.TransCmp refined]
    (agree : ∀ left ∈ items, ∀ right ∈ items, ∀ part ∈ parts left, ∀ other ∈ parts right,
      refined part other = order left right) :
    sortedBy (precedes refined) (items.flatMap parts) =
      (sortedBy (precedes order) items).flatMap parts := by
  have inside {item : α} (member : item ∈ sortedBy (precedes order) items) : item ∈ items :=
    (perm_sortedBy _ items).subset member
  symm
  refine eq_sortedBy ((perm_sortedBy _ items).flatMap_right parts) ?_ fun wanted among => ?_
  · refine List.pairwise_flatMap.mpr ⟨fun item member => ?_, ?_⟩
    · refine List.pairwise_of_forall_mem_list fun part first other second => ?_
      rw [agree item (inside member) item (inside member) part first other second]
      exact Std.ReflCmp.isLE_rfl
    · refine List.Pairwise.imp_of_mem (fun {left right} before after ordered part first other second => ?_)
        (pairwise_sortedBy items)
      rw [agree left (inside before) right (inside after) part first other second]
      exact ordered
  · obtain ⟨origin, member, part⟩ := List.mem_flatMap.mp among
    -- The parts of an item are equal to the wanted one all together, as the item is to its origin.
    have classes {list : List α} (subset : list ⊆ items) :
        (list.flatMap parts).filter (refined wanted · == .eq) =
          (list.filter (order origin · == .eq)).flatMap parts := by
      refine filter_flatMap_of_forall fun item listed other second => ?_
      rw [agree origin (inside member) item (subset listed) wanted part other second]
    rw [classes fun _ => inside, classes (List.Subset.refl items), filter_sortedBy]

end Parts

end Polystore.Memory
