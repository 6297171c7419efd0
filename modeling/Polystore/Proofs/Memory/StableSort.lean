/-
**What the stable sort does.**

By whatever test, it rearranges the items or gives up. By a comparison that is a total preorder of the items
it does not give up, and the items are those of `sortedBy`, which settles them one after the other.

* `rearranging`, `sorting`: the two aims that the parts of the sort achieve;
* `isMetBy_quickSort?`, `quickSort?_eq`: so does parting a list at an item;
* `perm_of_stableSort?`, `stableSort?_eq`: and so does the sort.
-/

import Polystore.Memory.Find
import Polystore.Proofs.Memory.Preorder
import Polystore.Proofs.Memory.Runs

namespace Polystore.Memory

open scoped List

variable {α : Type}

/-! ### Stretches in order -/

section Followers

variable {follows : α → α → Bool} {last : α} {items : List α}

theorem followers_isInitial (follows : α → α → Bool) (last : α) (items : List α) :
    followers follows last items <+: items := by
  induction items generalizing last with
  | nil => exact List.prefix_refl []
  | cons next rest hypothesis =>
    unfold followers
    split
    · exact List.cons_prefix_cons.mpr ⟨rfl, hypothesis next⟩
    · exact List.nil_prefix

/-- Items that follow one another are related all together by a transitive relation. -/
theorem pairwise_followers {related : α → α → Prop}
    (agree : ∀ left right, follows left right = true → related left right)
    (transitive : ∀ left middle right, related left middle → related middle right → related left right)
    (last : α) (items : List α) : (last :: followers follows last items).Pairwise related := by
  induction items generalizing last with
  | nil => exact List.pairwise_singleton related last
  | cons next rest hypothesis =>
    unfold followers
    split
    · rename_i following
      have others := hypothesis next
      refine List.pairwise_cons.mpr ⟨fun other member => ?_, others⟩
      have first := agree last next following
      rcases List.mem_cons.mp member with rfl | member
      · exact first
      · exact transitive last next other first ((List.pairwise_cons.mp others).1 other member)
    · exact List.pairwise_singleton related last

/-- The stretch that follows an item, as a part of the list. -/
theorem take_length_followers (follows : α → α → Bool) (last : α) (items : List α) :
    (last :: items).take (last :: followers follows last items).length =
      last :: followers follows last items :=
  congrArg (last :: ·) (List.prefix_iff_eq_take.mp (followers_isInitial follows last items)).symm

end Followers

/-- The first stretch of a list either does not fall, or falls throughout and is turned round. -/
theorem naturalRun_elim {precedes : α → α → Bool} {motive : List α → List α → Prop} (nil : motive [] [])
    (rising : ∀ first rest, motive (first :: followers (fun last next => !precedes next last) first rest)
      (first :: followers (fun last next => !precedes next last) first rest))
    (falling : ∀ first rest, motive (first :: followers (fun last next => precedes next last) first rest)
      (first :: followers (fun last next => precedes next last) first rest).reverse) (items : List α) :
    motive (items.take (naturalRun precedes items).length) (naturalRun precedes items) := by
  match items with
  | [] => exact nil
  | [item] => exact rising item []
  | first :: second :: rest =>
    rw [naturalRun]
    split
    · rw [List.length_reverse, take_length_followers]
      exact falling first (second :: rest)
    · rw [take_length_followers]
      exact rising first (second :: rest)

/-! ### The aims -/

/-- Rearranging items by any test, or giving up. -/
def rearranging (precedes : α → α → Bool) : Aim precedes where
  mayGiveUp := True
  IsMet items arranged := arranged ~ items
  nil := .refl []
  length_eq := List.Perm.length_eq
  merged former latter := (perm_neighboursMerged ..).trans (former.append latter)
  natural := naturalRun_elim (motive := fun part run => run ~ part) (.refl []) (fun _ _ => .refl _)
    fun _ _ => List.reverse_perm _
  small items := by
    cases made : smallSort? precedes items with
    | some arranged => exact perm_of_smallSort? made
    | none => trivial

section Sorting

variable {order : α → α → Ordering} [Std.TransCmp order] {items : List α}

theorem isLE_of_not_preceding {left right : α} (not : (!precedes order right left) = true) :
    (order left right).isLE = true :=
  isLE_of_not_precedes (by simpa using not)

/-- Items that fall throughout are sorted if they are turned round. -/
theorem sortedBy_eq_reverse (falling : items.Pairwise fun left right => order right left = .lt) :
    sortedBy (precedes order) items = items.reverse := by
  symm
  refine eq_sortedBy (List.reverse_perm items) (List.pairwise_reverse.mpr (falling.imp fun less => ?_))
    fun wanted _ => ?_
  · rw [less]
    rfl
  · -- No two of them are equal, so at most one is wanted.
    rw [List.filter_reverse]
    have apart := falling.filter (order wanted · == .eq)
    match same : items.filter (order wanted · == .eq) with
    | [] | [_] => rfl
    | left :: right :: rest =>
      have equal {other : α} (member : other ∈ left :: right :: rest) : order wanted other = .eq := by
        rw [← same] at member
        exact eq_of_beq (List.mem_filter.mp member).2
      rw [same] at apart
      have less := (List.pairwise_cons.mp apart).1 right List.mem_cons_self
      rw [← Std.TransCmp.congr_left (equal (List.mem_cons_of_mem left List.mem_cons_self)),
        equal List.mem_cons_self] at less
      cases less

/-- Sorting items by an order. -/
def sorting (order : α → α → Ordering) [Std.TransCmp order] : Aim (precedes order) where
  mayGiveUp := False
  IsMet items arranged := arranged = sortedBy (precedes order) items
  nil := rfl
  length_eq same := by rw [same, length_sortedBy]
  merged former latter := by rw [former, latter, neighboursMerged_sortedBy]
  natural := by
    refine naturalRun_elim (motive := fun part run => run = sortedBy (precedes order) part) rfl
      (fun first rest => ?_) fun first rest => ?_
    · have rises : (first :: followers (fun last next => !precedes order next last) first rest).Pairwise
          fun left right => (order left right).isLE = true :=
        pairwise_followers (fun _ _ => isLE_of_not_preceding) (fun _ _ _ => Std.TransCmp.isLE_trans) first rest
      exact (sortedBy_eq_self rises).symm
    · have falls : (first :: followers (fun last next => precedes order next last) first rest).Pairwise
          fun left right => order right left = .lt := by
        refine pairwise_followers (fun _ _ => eq_of_beq) (fun left middle right former latter => ?_) first rest
        exact Std.TransCmp.lt_trans latter former
      exact (sortedBy_eq_reverse falls).symm
  small items := by
    rw [smallSort?_eq]
    rfl

end Sorting

/-! ### Parting a list at an item -/

section Parting

variable {precedes : α → α → Bool}

/-- **What one step of parting does**: a list is sorted as a short one, by its runs, or parted at one of its
items, which has nothing below it, or something. -/
theorem quickSort?_elim {motive : Option (List α) → Prop} (limit : Nat) (bound : Option α) (items : List α)
    (short : motive (smallSort? precedes items))
    (deep : ∀ room, motive (runSort? precedes true room (some ∘ sortedBy precedes) items))
    (least : ∀ fewer front pivot back, limit = fewer + 1 → items = front ++ pivot :: back →
      (keptBeside (precedes · pivot) front back = [] ∨ ∃ below ∈ bound, precedes below pivot = false) →
      motive ((quickSort? precedes fewer none (keptBeside (precedes pivot ·) front back)).bind
        fun above => some (keptAround (!precedes pivot ·) front pivot back ++ above)))
    (parted : ∀ fewer front pivot back, limit = fewer + 1 → items = front ++ pivot :: back →
      motive ((quickSort? precedes fewer (some pivot) (keptAround (!precedes · pivot) front pivot back)).bind
        fun above => (quickSort? precedes fewer bound (keptBeside (precedes · pivot) front back)).bind
          fun below => some (below ++ above))) :
    motive (quickSort? precedes limit bound items) := by
  unfold quickSort?
  split
  · exact short
  · dsimp only
    split
    · rename_i fewer pivot back same
      have whole : items = items.take (pivotPlace precedes items) ++ pivot :: back := by
        rw [← same, List.take_append_drop]
      split
      · rename_i smallest
        refine least fewer _ pivot back rfl whole ?_
        rcases Bool.or_eq_true_iff.mp smallest with empty | bounded
        · exact .inl (List.isEmpty_iff.mp empty)
        · cases bound with
          | none => cases bounded
          | some below => exact .inr ⟨below, rfl, by simpa using bounded⟩
      · exact parted fewer _ pivot back rfl whole
    · exact deep _

/-- The items that pass a test, with the one that they are parted at, and the others. -/
theorem perm_kept (keeps : α → Bool) (front : List α) (pivot : α) (back : List α) :
    keptAround keeps front pivot back ++ keptBeside (!keeps ·) front back ~ front ++ pivot :: back := by
  have parted (items : List α) : items.filter keeps ++ items.filter (!keeps ·) ~ items :=
    List.filter_append_perm keeps items
  calc keptAround keeps front pivot back ++ keptBeside (!keeps ·) front back
    _ ~ (front.filter keeps ++ front.filter (!keeps ·)) ++
        (pivot :: back.filter keeps ++ back.filter (!keeps ·)) := perm_append_append ..
    _ ~ front ++ pivot :: back := (parted front).append ((parted back).cons pivot)

/-- **Parting lists rearranges them**, or gives up. -/
theorem isMetBy_quickSort? (limit : Nat) (bound : Option α) :
    (rearranging precedes).IsMetBy (quickSort? precedes limit bound) := by
  induction limit using Nat.strongRecOn generalizing bound with
  | ind limit hypothesis =>
    intro items
    have simple : (rearranging precedes).IsMetBy (some ∘ sortedBy precedes) := fun part =>
      perm_sortedBy precedes part
    refine quickSort?_elim (motive := fun result => Yields True result (· ~ items)) limit bound items
      ((rearranging precedes).small items)
      (fun room => (rearranging precedes).yields_runSort? simple true room items) ?_ ?_
    · intro fewer front pivot back less whole _
      refine (hypothesis fewer (by omega) none _).bind fun above permuted => ?_
      have parted := perm_kept (!precedes pivot ·) front pivot back
      simp only [Bool.not_not] at parted
      rw [whole]
      exact (permuted.append_left _).trans parted
    · intro fewer front pivot back less whole
      refine (hypothesis fewer (by omega) (some pivot) _).bind fun above permuted => ?_
      refine (hypothesis fewer (by omega) bound _).bind fun below permutedToo => ?_
      have parted := perm_kept (!precedes · pivot) front pivot back
      simp only [Bool.not_not] at parted
      rw [whole]
      exact List.perm_append_comm.trans ((permuted.append permutedToo).trans parted)

end Parting

section Bounds

variable {order : α → α → Ordering} [Std.TransCmp order] {front back : List α} {pivot : α}

theorem not_precedes_self (item : α) : precedes order item item = false := by
  have same : order item item = .eq := Std.ReflCmp.compare_self
  rw [precedes, same]
  rfl

theorem keptAround_eq_filter (keeps : α → Bool) (kept : keeps pivot = true) :
    keptAround keeps front pivot back = (front ++ pivot :: back).filter keeps := by
  rw [List.filter_append, List.filter_cons_of_pos kept]
  rfl

theorem keptBeside_eq_filter (keeps : α → Bool) (dropped : keeps pivot = false) :
    keptBeside keeps front back = (front ++ pivot :: back).filter keeps := by
  rw [List.filter_append, List.filter_cons_of_neg (by simp [dropped])]
  rfl

/-- Where nothing precedes the pivot, those that it does not precede are equal and go in front. -/
theorem sortedBy_of_least {items : List α} (least : ∀ item ∈ items, (order pivot item).isLE = true) :
    items.filter (!precedes order pivot ·) ++ sortedBy (precedes order) (items.filter (precedes order pivot ·)) =
      sortedBy (precedes order) items := by
  have equal : sortedBy (precedes order) (items.filter (!precedes order pivot ·)) =
      items.filter (!precedes order pivot ·) := by
    refine sortedBy_eq_self (List.pairwise_of_forall_mem_list fun left inLeft right inRight => ?_)
    obtain ⟨_, notAbove⟩ := List.mem_filter.mp inLeft
    exact Std.TransCmp.isLE_trans (isLE_of_not_preceding notAbove) (least right (List.mem_filter.mp inRight).1)
  have parted : sortedBy (precedes order) (items.filter (!precedes order pivot ·)) ++
      sortedBy (precedes order) (items.filter (!!precedes order pivot ·)) =
        sortedBy (precedes order) items := by
    refine sortedBy_parted fun left _ right _ notAbove above => ?_
    have less : precedes order pivot right = true := by simpa using above
    exact Std.TransCmp.lt_of_isLE_of_lt (isLE_of_not_preceding notAbove) (eq_of_beq less)
  simp only [Bool.not_not] at parted
  rw [← parted, equal]

/-- Those that precede the pivot go in front of the others. -/
theorem sortedBy_of_parted (pivot : α) (items : List α) :
    sortedBy (precedes order) (items.filter (precedes order · pivot)) ++
        sortedBy (precedes order) (items.filter (!precedes order · pivot)) =
      sortedBy (precedes order) items := by
  refine sortedBy_parted fun left _ right _ below notBelow => ?_
  exact Std.TransCmp.lt_of_lt_of_isLE (eq_of_beq below) (isLE_of_not_preceding (by simp [notBelow]))

theorem eq_some_of_sorting {result : Option (List α)} {items : List α}
    (met : Yields (sorting order).mayGiveUp result ((sorting order).IsMet items)) :
    result = some (sortedBy (precedes order) items) := by
  cases result with
  | some arranged => exact congrArg some met
  | none => cases met

/-- **A list that is parted is sorted**, if nothing in it precedes the bound. -/
theorem quickSort?_eq (limit : Nat) (bound : Option α) (items : List α)
    (bounded : ∀ least ∈ bound, ∀ item ∈ items, (order least item).isLE = true) :
    quickSort? (precedes order) limit bound items = some (sortedBy (precedes order) items) := by
  induction limit using Nat.strongRecOn generalizing bound items with
  | ind limit hypothesis =>
    have simple : (sorting order).IsMetBy (some ∘ sortedBy (precedes order)) := fun part => rfl
    refine quickSort?_elim (motive := fun result => result = some (sortedBy (precedes order) items)) limit
      bound items (smallSort?_eq items) (fun room => ?_) ?_ ?_
    · exact eq_some_of_sorting ((sorting order).yields_runSort? simple true room items)
    · intro fewer front pivot back less whole smallest
      have least : ∀ item ∈ items, (order pivot item).isLE = true := by
        intro item inside
        rcases smallest with none | ⟨below, known, notBelow⟩
        · rw [keptBeside_eq_filter (precedes order · pivot) (not_precedes_self pivot), ← whole] at none
          exact isLE_of_not_precedes (List.filter_eq_nil_iff.mp none item inside)
        · have first := isLE_of_not_precedes (Bool.eq_false_iff.mp notBelow)
          exact Std.TransCmp.isLE_trans first (bounded below known item inside)
      rw [hypothesis fewer (by omega) none _ nofun,
        keptBeside_eq_filter (precedes order pivot ·) (not_precedes_self pivot),
        keptAround_eq_filter _ (by rw [not_precedes_self]; rfl), ← whole]
      exact congrArg some (sortedBy_of_least least)
    · intro fewer front pivot back less whole
      rw [keptAround_eq_filter _ (by rw [not_precedes_self]; rfl),
        keptBeside_eq_filter (precedes order · pivot) (not_precedes_self pivot), ← whole,
        hypothesis fewer (by omega) (some pivot), hypothesis fewer (by omega) bound]
      · exact congrArg some (sortedBy_of_parted pivot items)
      · exact fun least known item inside => bounded least known item (List.mem_filter.mp inside).1
      · intro least known item inside
        obtain rfl := Option.some.inj known
        exact isLE_of_not_preceding (List.mem_filter.mp inside).2

end Bounds

/-! ### The whole sort -/

section Whole

variable {items arranged : List α}

theorem longSort?_eq {order : α → α → Ordering} [Std.TransCmp order] (items : List α) :
    longSort? (precedes order) items = some (sortedBy (precedes order) items) := by
  have parts : (sorting order).IsMetBy fun part =>
      quickSort? (precedes order) (2 * part.length.log2) none part := by
    intro part
    show Yields _ (quickSort? (precedes order) _ none part) _
    rw [quickSort?_eq _ none part nofun]
    rfl
  exact eq_some_of_sorting ((sorting order).yields_runSort? parts _ _ items)

theorem perm_of_yields {precedes : α → α → Bool} {result : Option (List α)}
    (met : Yields (rearranging precedes).mayGiveUp result ((rearranging precedes).IsMet items))
    (made : result = some arranged) : arranged ~ items := by
  rw [made] at met
  exact met

/-- **Whatever the test is, the sort rearranges the items**, or gives up. -/
theorem perm_of_stableSort? {precedes : α → α → Bool} (made : stableSort? precedes items = some arranged) :
    arranged ~ items := by
  unfold stableSort? at made
  split at made
  · rw [← Option.some.inj made]
    exact perm_sortedBy precedes items
  · obtain ⟨own, sorted, rfl⟩ := Option.map_eq_some_iff.mp made
    have rearranged := perm_of_yields ((rearranging _).yields_runSort?
      (fun part => isMetBy_quickSort? _ none part) _ _ items.attach) sorted
    have whole := rearranged.map Subtype.val
    rwa [List.attach_map_subtype_val] at whole

/-- Up to twenty items are settled one after the other, whatever the test is. -/
theorem stableSort?_of_length_le (precedes : α → α → Bool) (few : items.length ≤ 20) :
    stableSort? precedes items = some (sortedBy precedes items) := by
  rw [stableSort?, if_pos few]

/-- **By a total preorder of the items they are sorted.** -/
theorem stableSort?_eq {order : α → α → Ordering} (preorder : IsTotalPreorder order (· ∈ items)) :
    stableSort? (precedes order) items = some (sortedBy (precedes order) items) := by
  unfold stableSort?
  split
  · rfl
  · have ordered := isTotalPreorder_iff.mp preorder
    show (longSort? (precedes (along Subtype.val order)) items.attach).map _ = _
    rw [longSort?_eq, Option.map_some, map_sortedBy, List.attach_map_subtype_val]

end Whole

/-- A read neither loses nor adds documents when it sorts them. -/
theorem perm_sorted (sort : Option Document) (documents : List Document) :
    sorted sort documents ~ documents := by
  unfold sorted
  cases made : sorted? sort documents with
  | none => exact .refl documents
  | some rows =>
    cases sort with
    | none => rw [← Option.some.inj made]; rfl
    | some sort => exact perm_of_stableSort? made

end Polystore.Memory
