/-
**Merges of sorted lists.**

Whatever the test is, a merge neither loses nor adds items. Where it is that of an order, every merge of
two sorted lists is the sorted list of both, whether it is made from the front, from the back or from both
ends, which then meet.

* `merged_sortedBy`, `mergedFromBack_sortedBy`, `mergedBothWays?_sortedBy`: merges of sorted lists;
* `perm_of_mergedBothWays?`: where the ends meet, every item is taken once;
* `smallSort?_eq`, `perm_of_smallSort?`: so a short list is sorted, or rearranged.
-/

import Polystore.Proofs.Memory.Sorting

namespace Polystore.Memory

open scoped List

variable {α : Type}

/-- Two lists in two parts each. -/
theorem perm_append_append (left right left' right' : List α) :
    (left ++ right) ++ (left' ++ right') ~ (left ++ left') ++ (right ++ right') := by
  rw [List.append_assoc, List.append_assoc]
  exact (List.perm_append_comm_assoc ..).append_left left

/-! ### Merges by any test -/

section Tests

variable {precedes : α → α → Bool} {first second items : List α}

theorem perm_merged (precedes : α → α → Bool) (first second : List α) :
    merged precedes first second ~ first ++ second := by
  induction first generalizing second with
  | nil => exact .refl _
  | cons item rest hypothesis =>
    rw [merged]
    generalize ahead : second.takeWhile (precedes · item) = front
    generalize behind : second.dropWhile (precedes · item) = back
    have whole : front ++ back = second := by
      rw [← ahead, ← behind, List.takeWhile_append_dropWhile]
    calc front ++ item :: merged precedes rest back
      _ ~ front ++ item :: (rest ++ back) := ((hypothesis back).cons item).append_left front
      _ ~ item :: (front ++ (rest ++ back)) := List.perm_middle
      _ ~ item :: (rest ++ (front ++ back)) := (List.perm_append_comm_assoc ..).cons item
      _ = item :: rest ++ second := by rw [whole, List.cons_append]

theorem length_sortedBy (precedes : α → α → Bool) (items : List α) :
    (sortedBy precedes items).length = items.length :=
  (perm_sortedBy precedes items).length_eq

theorem perm_mergedFromBack (precedes : α → α → Bool) (first second : List α) :
    mergedFromBack precedes first second ~ first ++ second := by
  rw [mergedFromBack]
  refine (List.reverse_perm _).trans ((perm_merged _ _ _).trans ?_)
  rw [← List.reverse_append]
  exact List.reverse_perm _

theorem perm_neighboursMerged (precedes : α → α → Bool) (first second : List α) :
    neighboursMerged precedes first second ~ first ++ second := by
  unfold neighboursMerged
  split
  · exact perm_merged ..
  · exact perm_mergedFromBack ..

/-- A merge keeps the items of each list in their order. -/
theorem filter_merged {keeps : α → Bool} (kept : ∀ item ∈ first, keeps item = true)
    (dropped : ∀ item ∈ second, keeps item = false) :
    (merged precedes first second).filter keeps = first := by
  induction first generalizing second with
  | nil => exact List.filter_eq_nil_iff.mpr fun item member => by simp [dropped item member]
  | cons item rest hypothesis =>
    rw [merged, List.filter_append, List.filter_cons_of_pos (kept item List.mem_cons_self),
      List.filter_eq_nil_iff.mpr, List.nil_append, hypothesis]
    · exact fun other member => kept other (List.mem_cons_of_mem item member)
    · exact fun other member => dropped other ((List.dropWhile_sublist _).subset member)
    · intro other member
      simp [dropped other ((List.takeWhile_sublist _).subset member)]

theorem filter_merged_right {keeps : α → Bool} (dropped : ∀ item ∈ first, keeps item = false)
    (kept : ∀ item ∈ second, keeps item = true) :
    (merged precedes first second).filter keeps = second := by
  induction first generalizing second with
  | nil => exact List.filter_eq_self.mpr kept
  | cons item rest hypothesis =>
    rw [merged, List.filter_append, List.filter_cons_of_neg (by simp [dropped item List.mem_cons_self]),
      List.filter_eq_self.mpr, hypothesis, List.takeWhile_append_dropWhile]
    · exact fun other member => dropped other (List.mem_cons_of_mem item member)
    · exact fun other member => kept other ((List.dropWhile_sublist _).subset member)
    · exact fun other member => kept other ((List.takeWhile_sublist _).subset member)

theorem filter_mergedFromBack {keeps : α → Bool} (kept : ∀ item ∈ first, keeps item = true)
    (dropped : ∀ item ∈ second, keeps item = false) :
    (mergedFromBack precedes first second).filter keeps = first := by
  rw [mergedFromBack, List.filter_reverse, filter_merged_right, List.reverse_reverse]
  · exact fun item member => dropped item (List.mem_reverse.mp member)
  · exact fun item member => kept item (List.mem_reverse.mp member)

theorem filter_mergedFromBack_right {keeps : α → Bool} (dropped : ∀ item ∈ first, keeps item = false)
    (kept : ∀ item ∈ second, keeps item = true) :
    (mergedFromBack precedes first second).filter keeps = second := by
  rw [mergedFromBack, List.filter_reverse, filter_merged, List.reverse_reverse]
  · exact fun item member => kept item (List.mem_reverse.mp member)
  · exact fun item member => dropped item (List.mem_reverse.mp member)

end Tests

/-! ### What is left of a list -/

section Remaining

variable {items front middle back : List α}

/-- A list cut at two places. -/
theorem take_append_drop_take_append_drop {former latter : Nat} (ordered : former ≤ latter) (items : List α) :
    items.take former ++ (items.take latter).drop former ++ items.drop latter = items := by
  have head : items.take former = (items.take latter).take former := by
    rw [List.take_take, Nat.min_eq_left ordered]
  rw [head, List.take_append_drop, List.take_append_drop]

theorem remaining?_append (front middle back : List α) :
    remaining? front.length back.length (front ++ middle ++ back) = some middle := by
  have sized : (front ++ middle ++ back).length - back.length = (front ++ middle).length := by
    simp only [List.length_append]
    omega
  rw [remaining?, if_pos (by simp only [List.length_append]; omega), sized, List.take_left,
    List.drop_left]

theorem append_of_remaining? {former latter : Nat} (left : remaining? former latter items = some middle) :
    items = items.take former ++ middle ++ items.drop (items.length - latter) := by
  unfold remaining? at left
  split at left
  · rename_i fits
    obtain rfl := Option.some.inj left
    rw [take_append_drop_take_append_drop (by omega)]
  · cases left

end Remaining

/-! ### Merges from both ends by any test -/

section BothWays

variable {precedes : α → α → Bool} {first second arranged : List α} {keeps : α × Bool → Bool}
  {whole : List (α × Bool)} {items : List α}

/-- The items of a list at the front of a merge are the first ones of that list. -/
theorem map_filter_take (own : (whole.filter keeps).map Prod.fst = items) (count : Nat) :
    ((whole.take count).filter keeps).map Prod.fst = items.take ((whole.take count).countP keeps) := by
  have parts := own
  rw [← List.take_append_drop count whole, List.filter_append, List.map_append] at parts
  rw [← parts, List.take_left' (by rw [List.length_map, List.countP_eq_length_filter])]

/-- The items of a list at the back of a merge are the last ones of that list. -/
theorem map_filter_drop (own : (whole.filter keeps).map Prod.fst = items) (count : Nat) :
    ((whole.drop count).filter keeps).map Prod.fst =
      items.drop (items.length - (whole.drop count).countP keeps) := by
  have parts := own
  rw [← List.take_append_drop count whole, List.filter_append, List.map_append] at parts
  rw [← parts, List.drop_left' _]
  simp only [List.length_append, List.length_map, List.countP_eq_length_filter]
  omega

theorem remaining?_of_parts {front middle back : List (α × Bool)} (keeps : α × Bool → Bool)
    (parts : whole = front ++ middle ++ back) (own : (whole.filter keeps).map Prod.fst = items) :
    remaining? (front.countP keeps) (back.countP keeps) items =
      some ((middle.filter keeps).map Prod.fst) := by
  rw [parts, List.filter_append, List.filter_append, List.map_append, List.map_append] at own
  have counted (entries : List (α × Bool)) :
      entries.countP keeps = ((entries.filter keeps).map Prod.fst).length := by
    rw [List.countP_eq_length_filter, List.length_map]
  rw [← own, counted front, counted back, remaining?_append]

/-- Items are marked with where they are from, and the marks taken away again. -/
theorem map_fst_marked (items : List α) (side : Bool) : (items.map (·, side)).map Prod.fst = items := by
  rw [List.map_map]
  exact List.map_id items

/-- At most one item is from one list only. -/
theorem append_map_filter_of_length_le_one {entries : List (α × Bool)} (few : entries.length ≤ 1) :
    (entries.filter (·.2)).map Prod.fst ++ (entries.filter (!·.2)).map Prod.fst = entries.map Prod.fst := by
  rw [← List.map_append]
  match entries, few with
  | [], _ => rfl
  | [(item, true)], _ => rfl
  | [(item, false)], _ => rfl

/-- Items by their origin. -/
theorem perm_map_fst (entries : List (α × Bool)) :
    entries.map Prod.fst ~ (entries.filter (·.2)).map Prod.fst ++ (entries.filter (!·.2)).map Prod.fst := by
  rw [← List.map_append]
  exact (List.filter_append_perm _ entries).symm.map Prod.fst

/-- The items that are taken from the front are the first ones of both lists, and those that are taken
from the back the last ones. -/
theorem map_filter_taken (precedes : α → α → Bool) (first second : List α) :
    let front := takenFront precedes first second
    let back := takenBack precedes first second
    ((front.filter (·.2)).map Prod.fst = first.take (front.countP (·.2)) ∧
      (front.filter (!·.2)).map Prod.fst = second.take (front.countP (!·.2))) ∧
    (back.filter (·.2)).map Prod.fst = first.drop (first.length - back.countP (·.2)) ∧
      (back.filter (!·.2)).map Prod.fst = second.drop (second.length - back.countP (!·.2)) := by
  refine ⟨⟨map_filter_take ?_ _, map_filter_take ?_ _⟩, map_filter_drop ?_ _, map_filter_drop ?_ _⟩
  · rw [filter_merged (by simp) (by simp), map_fst_marked]
  · rw [filter_merged_right (by simp) (by simp), map_fst_marked]
  · rw [filter_mergedFromBack (by simp) (by simp), map_fst_marked]
  · rw [filter_mergedFromBack_right (by simp) (by simp), map_fst_marked]

/-- **Where a merge from both ends succeeds, it takes every item once.** -/
theorem perm_of_mergedBothWays? (made : mergedBothWays? precedes first second = some arranged) :
    arranged ~ first ++ second := by
  obtain ⟨left, leftRemains, made⟩ := Option.bind_eq_some_iff.mp made
  obtain ⟨right, rightRemains, made⟩ := Option.bind_eq_some_iff.mp made
  obtain ⟨front, back⟩ := map_filter_taken precedes first second
  have fronts := perm_map_fst (takenFront precedes first second)
  have backs := perm_map_fst (takenBack precedes first second)
  rw [front.1, front.2] at fronts
  rw [back.1, back.2] at backs
  rw [← Option.some.inj made]
  calc (takenFront precedes first second).map Prod.fst ++ (left ++ right) ++
      (takenBack precedes first second).map Prod.fst
    _ ~ _ := (fronts.append_right _).append backs
    _ ~ _ := (perm_append_append ..).append_right _
    _ ~ _ := perm_append_append ..
    _ = first ++ second := by
      rw [← append_of_remaining? leftRemains, ← append_of_remaining? rightRemains]

end BothWays

/-! ### Merges by an order -/

section Orders

variable {order : α → α → Ordering} [Std.TransCmp order] {first second items others : List α}

omit [Std.TransCmp order] in
theorem lt_of_mem_takeWhile {item other : α} (member : other ∈ items.takeWhile (precedes order · item)) :
    order other item = .lt := by
  have all : (items.takeWhile (precedes order · item)).all (precedes order · item) = true :=
    List.all_takeWhile
  exact eq_of_beq (List.all_eq_true.mp all other member)

/-- What is left of a sorted list from the first item on that does not precede a given one. -/
theorem isLE_of_mem_dropWhile {item other : α}
    (ordered : items.Pairwise fun left right => (order left right).isLE = true)
    (member : other ∈ items.dropWhile (precedes order · item)) : (order item other).isLE = true := by
  induction items with
  | nil => cases member
  | cons head rest hypothesis =>
    obtain ⟨before, later⟩ := List.pairwise_cons.mp ordered
    by_cases ahead : precedes order head item = true
    · rw [List.dropWhile_cons, if_pos ahead] at member
      exact hypothesis later member
    · rw [List.dropWhile_cons, if_neg ahead] at member
      have least := isLE_of_not_precedes ahead
      rcases List.mem_cons.mp member with rfl | member
      · exact least
      · exact Std.TransCmp.isLE_trans least (before other member)

/-- **A merge of lists in order is in order.** -/
theorem pairwise_merged (firstOrdered : first.Pairwise fun left right => (order left right).isLE = true)
    (secondOrdered : second.Pairwise fun left right => (order left right).isLE = true) :
    (merged (precedes order) first second).Pairwise fun left right => (order left right).isLE = true := by
  induction first generalizing second with
  | nil => exact secondOrdered
  | cons item rest hypothesis =>
    obtain ⟨before, later⟩ := List.pairwise_cons.mp firstOrdered
    have parts := secondOrdered
    rw [← List.takeWhile_append_dropWhile (p := (precedes order · item)) (l := second)] at parts
    obtain ⟨front, back, across⟩ := List.pairwise_append.mp parts
    have behind : ∀ other ∈ merged (precedes order) rest (second.dropWhile (precedes order · item)),
        (order item other).isLE = true := by
      intro other member
      rcases List.mem_append.mp ((perm_merged _ _ _).subset member) with member | member
      · exact before other member
      · exact isLE_of_mem_dropWhile secondOrdered member
    rw [merged]
    refine List.pairwise_append.mpr ⟨front, List.pairwise_cons.mpr ⟨behind, hypothesis later back⟩, ?_⟩
    intro ahead inFront other member
    have less : (order ahead item).isLE = true := by
      rw [lt_of_mem_takeWhile inFront]
      rfl
    rcases List.mem_cons.mp member with rfl | member
    · exact less
    · exact Std.TransCmp.isLE_trans less (behind other member)

/-- **A merge keeps equal items in their order**, those of the first list in front. -/
theorem filter_merged_of_pairwise (wanted : α)
    (ordered : first.Pairwise fun left right => (order left right).isLE = true) :
    (merged (precedes order) first second).filter (order wanted · == .eq) =
      (first ++ second).filter (order wanted · == .eq) := by
  induction first generalizing second with
  | nil => rfl
  | cons item rest hypothesis =>
    obtain ⟨before, later⟩ := List.pairwise_cons.mp ordered
    rw [merged]
    generalize ahead : second.takeWhile (precedes order · item) = front
    generalize behind : second.dropWhile (precedes order · item) = back
    have whole : second = front ++ back := by
      rw [← ahead, ← behind, List.takeWhile_append_dropWhile]
    have tail : (item :: merged (precedes order) rest back).filter (order wanted · == .eq) =
        (item :: rest ++ back).filter (order wanted · == .eq) := by
      rw [List.cons_append, List.filter_cons, List.filter_cons, hypothesis later]
    -- What goes in front of the item is less than the whole first list, so not both are wanted.
    have apart : front.filter (order wanted · == .eq) = [] ∨
        (item :: rest).filter (order wanted · == .eq) = [] := by
      by_cases none : front.filter (order wanted · == .eq) = []
      · exact .inl none
      refine .inr ?_
      obtain ⟨other, among⟩ := List.exists_mem_of_ne_nil _ none
      obtain ⟨inFront, equal⟩ := List.mem_filter.mp among
      rw [← ahead] at inFront
      have less : order wanted item = .lt := by
        rw [Std.TransCmp.congr_left (eq_of_beq equal)]
        exact lt_of_mem_takeWhile inFront
      refine List.filter_eq_nil_iff.mpr fun next member => ?_
      have below : order wanted next = .lt := by
        rcases List.mem_cons.mp member with rfl | member
        · exact less
        · exact Std.TransCmp.lt_of_lt_of_isLE less (before next member)
      simp [below]
    rw [List.filter_append, tail, whole, List.filter_append, List.filter_append, List.filter_append]
    rcases apart with none | none <;> simp [none]

/-- **Sorted lists are merged to the sorted list of both.** -/
theorem merged_sortedBy (items others : List α) :
    merged (precedes order) (sortedBy (precedes order) items) (sortedBy (precedes order) others) =
      sortedBy (precedes order) (items ++ others) := by
  rw [← sortedBy_append_sortedBy]
  exact eq_sortedBy (perm_merged ..) (pairwise_merged (pairwise_sortedBy _) (pairwise_sortedBy _))
    fun wanted _ => filter_merged_of_pairwise wanted (pairwise_sortedBy _)

theorem mergedFromBack_sortedBy (items others : List α) :
    mergedFromBack (precedes order) (sortedBy (precedes order) items) (sortedBy (precedes order) others) =
      sortedBy (precedes order) (items ++ others) := by
  have : Std.TransCmp fun left right => order right left := Std.TransCmp.opposite
  show (merged (precedes fun left right => order right left) _ _).reverse = _
  rw [← sortedBy_opposite, ← sortedBy_opposite, merged_sortedBy, ← List.reverse_append, sortedBy_opposite,
    List.reverse_reverse]

theorem neighboursMerged_sortedBy (items others : List α) :
    neighboursMerged (precedes order) (sortedBy (precedes order) items) (sortedBy (precedes order) others) =
      sortedBy (precedes order) (items ++ others) := by
  unfold neighboursMerged
  split
  · exact merged_sortedBy items others
  · exact mergedFromBack_sortedBy items others

/-- **From both ends sorted lists are merged to the same list**, if they are as long as each other or the
second one is by one item longer. -/
theorem mergedBothWays?_sortedBy (balanced : items.length ≤ others.length)
    (longer : others.length ≤ items.length + 1) :
    mergedBothWays? (precedes order) (sortedBy (precedes order) items) (sortedBy (precedes order) others) =
      some (sortedBy (precedes order) (items ++ others)) := by
  have marked (items : List α) (side : Bool) : (sortedBy (precedes order) items).map (·, side) =
      sortedBy (precedes (along Prod.fst order)) (items.map (·, side)) :=
    @map_sortedBy _ _ (along Prod.fst order) (·, side) items
  generalize both : merged (precedes (along Prod.fst order)) ((sortedBy (precedes order) items).map (·, true))
    ((sortedBy (precedes order) others).map (·, false)) = whole
  have fromBack : mergedFromBack (precedes (along Prod.fst order))
      ((sortedBy (precedes order) items).map (·, true))
      ((sortedBy (precedes order) others).map (·, false)) = whole := by
    rw [← both, marked, marked, merged_sortedBy, mergedFromBack_sortedBy]
  have sorts : whole.map Prod.fst = sortedBy (precedes order) (items ++ others) := by
    rw [← both, marked, marked, merged_sortedBy, map_sortedBy]
    simp [Function.comp_def]
  have sized : whole.length = items.length + others.length := by
    rw [← List.length_map Prod.fst, sorts, length_sortedBy, List.length_append]
  generalize taken : (whole.take others.length).drop items.length = middle
  have parts : whole = whole.take items.length ++ middle ++ whole.drop others.length := by
    rw [← taken, take_append_drop_take_append_drop balanced]
  have few : middle.length ≤ 1 := by
    rw [← taken, List.length_drop, List.length_take]
    omega
  have front : takenFront (precedes order) (sortedBy (precedes order) items) (sortedBy (precedes order) others) =
      whole.take items.length := by
    rw [takenFront, length_sortedBy]
    exact congrArg (List.take _) both
  have back : takenBack (precedes order) (sortedBy (precedes order) items) (sortedBy (precedes order) others) =
      whole.drop others.length := by
    rw [takenBack, length_sortedBy]
    exact congrArg (List.drop _) fromBack
  have left := remaining?_of_parts (·.2) parts (by rw [← both, filter_merged (by simp) (by simp), map_fst_marked])
  have right := remaining?_of_parts (!·.2) parts (by
    rw [← both, filter_merged_right (by simp) (by simp), map_fst_marked])
  rw [mergedBothWays?, front, back, left, right]
  show some (_ ++ (_ ++ _) ++ _) = _
  -- At most one item is left in between, so it does not matter which list it is from.
  rw [append_map_filter_of_length_le_one few, ← List.map_append, ← List.map_append, ← parts, sorts]

end Orders

/-! ### Items settled after others -/

theorem settledAfter_sortedBy (precedes : α → α → Bool) (items others : List α) :
    settledAfter precedes (sortedBy precedes items) others = sortedBy precedes (items ++ others) := by
  rw [settledAfter, sortedBy, sortedBy, List.reverse_reverse, List.foldl_append]

theorem pairSorted_eq (precedes : α → α → Bool) (first second : α) :
    pairSorted precedes first second = sortedBy precedes [first, second] := by
  show _ = (settled precedes second [first]).reverse
  rw [pairSorted, settled]
  split <;> rfl

theorem perm_pairsMerged (precedes : α → α → Bool) (first second : List α) :
    pairsMerged precedes first second ~ first ++ second := by
  have pair (first second : α) : pairSorted precedes first second ~ [first, second] := by
    rw [pairSorted_eq]
    exact perm_sortedBy precedes _
  unfold pairsMerged
  split
  · rename_i lower upper below above
    split
    · exact ((pair upper below).append_right [above]).cons lower
    · exact (((pair lower upper).append_right [above]).cons below).trans List.perm_middle.symm
    · exact (((pair below above).append_right [upper]).trans List.perm_append_comm).cons lower
    · have inner : [above, upper] ~ [upper, above] := .swap ..
      calc below :: (pairSorted precedes lower above ++ [upper])
        _ ~ below :: lower :: [above, upper] := ((pair lower above).append_right [upper]).cons below
        _ ~ lower :: below :: [above, upper] := .swap ..
        _ ~ lower :: ([below] ++ [upper, above]) := (inner.cons below).cons lower
        _ ~ lower :: upper :: [below, above] := (List.Perm.swap ..).cons lower
  · exact perm_merged precedes _ _

/-! ### Short lists by any test -/

section Short

variable {precedes : α → α → Bool} {items arranged : List α}

theorem perm_sortedByFour (precedes : α → α → Bool) (items : List α) :
    sortedByFour precedes items ~ items := by
  unfold sortedByFour
  split
  · rename_i first second third fourth others
    refine (perm_settledAfter _ _ _).trans ?_
    rw [pairSorted_eq, pairSorted_eq]
    have four := (perm_pairsMerged precedes (sortedBy precedes [first, second])
      (sortedBy precedes [third, fourth])).trans ((perm_sortedBy _ _).append (perm_sortedBy _ _))
    exact four.append_right others
  · exact perm_sortedBy precedes items

theorem perm_of_sortedByEight? (made : sortedByEight? precedes items = some arranged) :
    arranged ~ items := by
  obtain ⟨eight, both, made⟩ := Option.bind_eq_some_iff.mp made
  rw [← Option.some.inj made]
  have head : eight ~ items.take 8 := by
    refine (perm_of_mergedBothWays? both).trans ?_
    refine ((perm_sortedByFour _ _).append (perm_sortedByFour _ _)).trans ?_
    rw [← List.take_add]
  exact (perm_settledAfter _ _ _).trans ((head.append_right _).trans (by rw [List.take_append_drop]))

/-- **A short list is rearranged**, whatever the test is. -/
theorem perm_of_smallSort? (made : smallSort? precedes items = some arranged) : arranged ~ items := by
  have halves := List.take_append_drop (items.length / 2) items
  unfold smallSort? at made
  split at made
  · have both := perm_of_mergedBothWays? made
    refine both.trans (((perm_sortedBy _ _).append (perm_sortedBy _ _)).trans ?_)
    rw [halves]
  · split at made
    · have both := perm_of_mergedBothWays? made
      refine both.trans (((perm_sortedByFour _ _).append (perm_sortedByFour _ _)).trans ?_)
      rw [halves]
    · obtain ⟨former, first, made⟩ := Option.bind_eq_some_iff.mp made
      obtain ⟨latter, second, made⟩ := Option.bind_eq_some_iff.mp made
      refine (perm_of_mergedBothWays? made).trans ?_
      refine ((perm_of_sortedByEight? first).append (perm_of_sortedByEight? second)).trans ?_
      rw [halves]

end Short

/-! ### Short lists by an order -/

section Ordered

variable {order : α → α → Ordering} [Std.TransCmp order] {items : List α}

/-- **Two pairs in order are merged**, whichever of their items are compared. -/
theorem pairsMerged_eq_merged {lower upper below above : α} (first : (order lower upper).isLE = true)
    (second : (order below above).isLE = true) :
    pairsMerged (precedes order) [lower, upper] [below, above] =
      merged (precedes order) [lower, upper] [below, above] := by
  have notLess {left right : α} (ordered : (order left right).isLE = true) :
      precedes order right left = false := by
    rw [precedes, @Std.OrientedCmp.eq_swap _ order]
    cases compared : order left right <;> simp_all
  have turned {left right : α} : precedes order right left = false → (order left right).isLE = true :=
    fun not => isLE_of_not_precedes (by rw [not]; exact Bool.false_ne_true)
  simp only [pairsMerged, pairSorted, merged, List.takeWhile_cons, List.dropWhile_cons, List.takeWhile_nil,
    List.dropWhile_nil, notLess first, notLess second]
  cases lowers : precedes order below lower <;> cases uppers : precedes order above upper
  · cases inner : precedes order below upper <;> simp [uppers, inner]
  · have inner : precedes order below upper = true :=
      beq_iff_eq.mpr (Std.TransCmp.lt_of_isLE_of_lt second (eq_of_beq uppers))
    simp [uppers, inner]
  · have inner : precedes order above lower = false :=
      notLess (Std.TransCmp.isLE_trans first (turned uppers))
    simp [uppers, inner]
  · cases inner : precedes order above lower <;> simp [uppers]

theorem pairsMerged_sortedBy (first second third fourth : α) :
    pairsMerged (precedes order) (sortedBy (precedes order) [first, second])
        (sortedBy (precedes order) [third, fourth]) =
      sortedBy (precedes order) [first, second, third, fourth] := by
  have inOrder (first second : α) : ∃ lower upper, sortedBy (precedes order) [first, second] = [lower, upper] ∧
      (order lower upper).isLE = true := by
    have ordered := @pairwise_sortedBy _ order _ [first, second]
    match same : sortedBy (precedes order) [first, second], length_sortedBy (precedes order) [first, second] with
    | [lower, upper], _ =>
      rw [same] at ordered
      exact ⟨lower, upper, rfl, by simpa using ordered⟩
  obtain ⟨lower, upper, former, first'⟩ := inOrder first second
  obtain ⟨below, above, latter, second'⟩ := inOrder third fourth
  have whole := @merged_sortedBy _ order _ [first, second] [third, fourth]
  rw [former, latter] at whole ⊢
  rw [pairsMerged_eq_merged first' second', whole]
  rfl

theorem sortedByFour_eq (items : List α) :
    sortedByFour (precedes order) items = sortedBy (precedes order) items := by
  unfold sortedByFour
  split
  · rw [pairSorted_eq, pairSorted_eq, pairsMerged_sortedBy, settledAfter_sortedBy]
    rfl
  · rfl

theorem sortedByEight?_eq (long : 8 ≤ items.length) :
    sortedByEight? (precedes order) items = some (sortedBy (precedes order) items) := by
  have first : (items.take 4).length = 4 := by rw [List.length_take]; omega
  have second : ((items.drop 4).take 4).length = 4 := by rw [List.length_take, List.length_drop]; omega
  rw [sortedByEight?, sortedByFour_eq, sortedByFour_eq, mergedBothWays?_sortedBy (by omega) (by omega),
    ← List.take_add]
  show some (settledAfter _ (sortedBy _ (items.take 8)) (items.drop 8)) = _
  rw [settledAfter_sortedBy, List.take_append_drop]

/-- **A short list is sorted.** -/
theorem smallSort?_eq (items : List α) :
    smallSort? (precedes order) items = some (sortedBy (precedes order) items) := by
  have halves := List.take_append_drop (items.length / 2) items
  have former : (items.take (items.length / 2)).length = items.length / 2 := by
    rw [List.length_take]
    omega
  have latter : (items.drop (items.length / 2)).length = items.length - items.length / 2 :=
    List.length_drop
  have both : mergedBothWays? (precedes order) (sortedBy (precedes order) (items.take (items.length / 2)))
      (sortedBy (precedes order) (items.drop (items.length / 2))) =
        some (sortedBy (precedes order) items) := by
    rw [mergedBothWays?_sortedBy (by omega) (by omega), halves]
  unfold smallSort?
  split
  · exact both
  · split
    · simp only [sortedByFour_eq]
      exact both
    · show (sortedByEight? _ (items.take _)).bind (fun former =>
        (sortedByEight? _ (items.drop _)).bind fun latter => mergedBothWays? _ former latter) = _
      rw [sortedByEight?_eq (by omega), sortedByEight?_eq (by omega)]
      exact both

end Ordered

end Polystore.Memory
