/-
**Sorts whose comparison is no order.**

The comparison of a sort reads the other way round from right to left, but values in no order count as
equal, so that neither of two values need be greater although each is equal to a third one that lies
between them. Up to twenty documents are sorted stably all the same wherever that is possible; more of them
may be left in any order, or the sort gives up.

* `onlyLessOvertake_sortedBy`: items that are settled one after the other only overtake greater ones;
* `isStablySorted_sortedBy_iff`: they are sorted stably exactly if some arrangement of them is;
* `isTotalPreorder_sortOrder_iff`: the values among which sorts compare by a total preorder are those in
  an order with each other, absent ones besides, and those of which none is greater than another one;
* `isTotalPreorder_documentOrder`: fields that are compared by one make documents be;
* `isTotalPreorder_documentOrder_iff`: documents that are, and no others, can be sorted whatever their list;
* `stablySorted_find`: what a find with a sort document answers.
-/

import Polystore.Memory.Store
import Polystore.Proofs.Memory.Ordering

namespace Polystore.Memory

variable {α β : Type} {order : α → α → Ordering} {items rows : List α}

/-! ### Stable arrangements -/

/-- Whether an item may stand before another one, each with the place where it stood: it is not greater,
and stood further in front if it is equal. -/
def Before (order : α → α → Ordering) (former latter : α × Nat) : Prop :=
  order former.1 latter.1 ≠ .gt ∧ (order former.1 latter.1 = .eq → former.2 < latter.2)

/-- **A stable arrangement of items**: the items with their places, no greater one before another and
equal ones in the order of their places. -/
def IsStablySorted (order : α → α → Ordering) (items rows : List α) : Prop :=
  ∃ placed : List (α × Nat), placed.Perm items.zipIdx ∧ placed.map Prod.fst = rows ∧
    placed.Pairwise (Before order)

/-- **An arrangement in which only less items overtake others**: the items with their places, each behind
those that stood in front of it unless it is less. -/
def OnlyLessOvertake (order : α → α → Ordering) (items rows : List α) : Prop :=
  ∃ placed : List (α × Nat), placed.Perm items.zipIdx ∧ placed.map Prod.fst = rows ∧
    placed.Pairwise fun former latter => former.2 < latter.2 ∨ order former.1 latter.1 = .lt

/-- No item of a stable arrangement is greater than one behind it. -/
theorem IsStablySorted.pairwise (stable : IsStablySorted order items rows) :
    rows.Pairwise fun left right => order left right ≠ .gt := by
  obtain ⟨placed, -, rfl, arranged⟩ := stable
  exact List.pairwise_map.mpr (arranged.imp And.left)

theorem before_iff {former latter : α × Nat} :
    Before order former latter ↔
      order former.1 latter.1 = .lt ∨ order former.1 latter.1 = .eq ∧ former.2 < latter.2 := by
  unfold Before
  cases order former.1 latter.1 with
  | lt => simp
  | eq => simp
  | gt => simp

section Reversed

variable (reversed : ∀ left right, order right left = (order left right).swap)

include reversed

/-- Of two items, not both may stand before the other one. -/
theorem Before.asymm {former latter : α × Nat} (before : Before order former latter) :
    ¬ Before order latter former := by
  rw [before_iff] at before ⊢
  rw [reversed former.1 latter.1]
  rcases before with less | ⟨equal, earlier⟩
  · simp [less]
  · simp only [equal, Ordering.swap_eq, reduceCtorEq, true_and, false_or]
    omega

/-- Items in a stable arrangement stand before each other as they are arranged. -/
theorem before_trans_of_pairwise {placed : List (α × Nat)} (arranged : placed.Pairwise (Before order))
    {first second third : α × Nat} (known : first ∈ placed ∧ second ∈ placed ∧ third ∈ placed)
    (former : Before order first second) (latter : Before order second third) :
    Before order first third := by
  obtain ⟨i, inFirst, rfl⟩ := List.getElem_of_mem known.1
  obtain ⟨j, inSecond, rfl⟩ := List.getElem_of_mem known.2.1
  obtain ⟨k, inThird, rfl⟩ := List.getElem_of_mem known.2.2
  have increasing {i j : Nat} (inFormer : i < placed.length) (inLatter : j < placed.length)
      (before : Before order placed[i] placed[j]) : i < j := by
    rcases Nat.lt_trichotomy i j with less | rfl | greater
    · exact less
    · exact absurd before (before.asymm reversed)
    · exact absurd before (Before.asymm reversed (List.pairwise_iff_getElem.mp arranged j i _ _ greater))
  exact List.pairwise_iff_getElem.mp arranged i k inFirst inThird
    ((increasing inFirst inSecond former).trans (increasing inSecond inThird latter))

/-- An item that does not precede one from further in front may stand behind it. -/
theorem before_of_not_precedes {earlier later : α × Nat}
    (not : ¬ precedes (along Prod.fst order) later earlier = true) (behind : earlier.2 < later.2) :
    Before order earlier later := by
  rw [precedes, along, beq_iff_eq] at not
  rw [before_iff, reversed later.1 earlier.1]
  cases compared : order later.1 earlier.1 with
  | lt => exact absurd compared not
  | eq => exact .inr ⟨rfl, behind⟩
  | gt => exact .inl rfl

end Reversed

/-! ### Sorting items with their places -/

/-- Sorted items are arranged by a relation that holds between an item and those that it moves past, and
between those that it does not and it, and that is not lost on the way over a third one. -/
theorem exists_placed_sortedBy {mayPrecede : α × Nat → α × Nat → Prop}
    (passes : ∀ earlier later, precedes (along Prod.fst order) later earlier = true → mayPrecede later earlier)
    (stays : ∀ earlier later, earlier.2 < later.2 → ¬ precedes (along Prod.fst order) later earlier = true →
      mayPrecede earlier later)
    (transitive : ∀ first ∈ items.zipIdx, ∀ second ∈ items.zipIdx, ∀ third ∈ items.zipIdx,
      first.2 < third.2 → mayPrecede first second → mayPrecede second third → mayPrecede first third) :
    ∃ placed : List (α × Nat), placed.Perm items.zipIdx ∧
      placed.map Prod.fst = sortedBy (precedes order) items ∧ placed.Pairwise mayPrecede := by
  suffices general : ∀ rest placed : List (α × Nat), rest ⊆ items.zipIdx → placed ⊆ items.zipIdx →
      rest.Pairwise (fun former latter => former.2 < latter.2) →
      (∀ item ∈ rest, ∀ other ∈ placed, other.2 < item.2) →
      placed.Pairwise (fun later earlier => mayPrecede earlier later) →
      (rest.foldl (fun placed item => settled (precedes (along Prod.fst order)) item placed)
        placed).Pairwise fun later earlier => mayPrecede earlier later by
    have places : items.zipIdx.Pairwise fun former latter => former.2 < latter.2 := by
      rw [← List.pairwise_map, List.zipIdx_map_snd]
      exact List.pairwise_lt_range'
    refine ⟨sortedBy (precedes (along Prod.fst order)) items.zipIdx, perm_sortedBy _ _, ?_, ?_⟩
    · rw [map_sortedBy, List.zipIdx_map_fst]
    · exact List.pairwise_reverse.mpr
        (general items.zipIdx [] (List.Subset.refl _) (List.nil_subset _) places nofun .nil)
  intro rest
  induction rest with
  | nil => exact fun placed _ _ _ _ arranged => arranged
  | cons item rest hypothesis =>
    intro placed inRest inPlaced places behind arranged
    obtain ⟨inItem, inOthers⟩ := List.cons_subset.mp inRest
    obtain ⟨ahead, later⟩ := List.pairwise_cons.mp places
    have settledItems {other : α × Nat}
        (member : other ∈ settled (precedes (along Prod.fst order)) item placed) :
        other ∈ item :: placed := (perm_settled _ item placed).subset member
    refine hypothesis _ inOthers ?_ later ?_ ?_
    · exact fun other member => List.cons_subset.mpr ⟨inItem, inPlaced⟩ (settledItems member)
    · intro next member other among
      rcases List.mem_cons.mp (settledItems among) with rfl | among
      · exact ahead next member
      · exact behind next (List.mem_cons_of_mem item member) other among
    · refine pairwise_settled_of (fun other _ passed => passes other item passed)
        (fun other among stopped => ?_) (fun first former second latter => ?_) arranged
      · exact stays other item (behind item List.mem_cons_self other among) stopped
      · exact transitive first (inPlaced former) second (inPlaced latter) item inItem
          (behind item List.mem_cons_self first former)

/-- **Items are sorted stably** where standing before is transitive. -/
theorem isStablySorted_sortedBy (reversed : ∀ left right, order right left = (order left right).swap)
    (transitive : ∀ first ∈ items.zipIdx, ∀ second ∈ items.zipIdx, ∀ third ∈ items.zipIdx,
      Before order first second → Before order second third → Before order first third) :
    IsStablySorted order items (sortedBy (precedes order) items) :=
  exists_placed_sortedBy (fun _ _ passed => before_iff.mpr (.inl (eq_of_beq passed)))
    (fun _ _ behind stopped => before_of_not_precedes reversed stopped behind)
    fun first inFirst second inSecond third inThird _ => transitive first inFirst second inSecond third inThird

/-- **Only less items overtake others** when each is settled among the ones before it, by any comparison. -/
theorem onlyLessOvertake_sortedBy (order : α → α → Ordering) (items : List α) :
    OnlyLessOvertake order items (sortedBy (precedes order) items) :=
  exists_placed_sortedBy (fun _ _ passed => .inr (eq_of_beq passed)) (fun _ _ behind _ => .inl behind)
    fun _ _ _ _ _ _ behind _ _ => .inl behind

/-- **Items are sorted stably exactly if some arrangement of them is.** -/
theorem isStablySorted_sortedBy_iff
    (reversed : ∀ left right, order right left = (order left right).swap) (items : List α) :
    IsStablySorted order items (sortedBy (precedes order) items) ↔
      ∃ others, IsStablySorted order items others := by
  constructor
  · intro stable
    exact ⟨_, stable⟩
  · rintro ⟨_, placed, permuted, rfl, arranged⟩
    refine isStablySorted_sortedBy reversed fun first inFirst second inSecond third inThird => ?_
    exact before_trans_of_pairwise reversed arranged
      ⟨permuted.symm.subset inFirst, permuted.symm.subset inSecond, permuted.symm.subset inThird⟩

/-! ### Total preorders -/

section Preorders

variable {among : α → Prop}

/-- Standing before is transitive where the comparison is a total preorder. -/
theorem IsTotalPreorder.before_trans (preorder : IsTotalPreorder order among)
    {first second third : α × Nat} (inside : among first.1 ∧ among second.1 ∧ among third.1)
    (former : Before order first second) (latter : Before order second third) :
    Before order first third := by
  have ordered := isTotalPreorder_iff.mp preorder
  let front : Subtype among := ⟨first.1, inside.1⟩
  let middle : Subtype among := ⟨second.1, inside.2.1⟩
  let back : Subtype among := ⟨third.1, inside.2.2⟩
  rw [before_iff] at former latter ⊢
  rcases former with less | ⟨equal, earlier⟩
  · rcases latter with lessToo | ⟨equalToo, _⟩
    · exact .inl (@Std.TransCmp.lt_trans _ _ ordered front middle back less lessToo)
    · exact .inl (@Std.TransCmp.lt_of_lt_of_eq _ _ ordered front middle back less equalToo)
  · rcases latter with lessToo | ⟨equalToo, earlierToo⟩
    · exact .inl (@Std.TransCmp.lt_of_eq_of_lt _ _ ordered front middle back equal lessToo)
    · exact .inr ⟨@Std.TransCmp.eq_trans _ _ ordered front middle back equal equalToo,
        earlier.trans earlierToo⟩

/-- Items are sorted stably by a comparison that is a total preorder of them. -/
theorem IsTotalPreorder.isStablySorted (preorder : IsTotalPreorder order (· ∈ items))
    (reversed : ∀ left right, order right left = (order left right).swap) :
    IsStablySorted order items (sortedBy (precedes order) items) := by
  have listed {entry : α × Nat} (member : entry ∈ items.zipIdx) : entry.1 ∈ items :=
    List.fst_mem_of_mem_zipIdx member
  refine isStablySorted_sortedBy reversed fun first inFirst second inSecond third inThird => ?_
  exact preorder.before_trans ⟨listed inFirst, listed inSecond, listed inThird⟩

/-- **A comparison is a total preorder of some items** if every list of them has a stable arrangement. -/
theorem isTotalPreorder_of_isStablySorted
    (reversed : ∀ left right, order right left = (order left right).swap)
    (stable : ∀ items, (∀ item ∈ items, among item) → ∃ rows, IsStablySorted order items rows) :
    IsTotalPreorder order among := by
  have notGreater : ∀ left middle right, among left → among middle → among right →
      order left middle ≠ .gt → order middle right ≠ .gt → order left right ≠ .gt := by
    intro left middle right inLeft inMiddle inRight former latter
    obtain ⟨_, placed, permuted, -, arranged⟩ := stable [left, middle, right] (by simp [*])
    have known {entry : α × Nat} (member : entry ∈ [(left, 0), (middle, 1), (right, 2)]) : entry ∈ placed :=
      permuted.symm.subset member
    exact (before_trans_of_pairwise reversed arranged
      ⟨known (by simp), known (by simp), known (by simp)⟩
      (⟨former, fun _ => Nat.one_pos⟩ : Before order (left, 0) (middle, 1))
      (⟨latter, fun _ => Nat.one_lt_two⟩ : Before order (middle, 1) (right, 2))).1
  refine ⟨fun left right _ _ => reversed left right, notGreater, ?_⟩
  intro left middle right inLeft inMiddle inRight former latter
  have ahead := notGreater left middle right inLeft inMiddle inRight (by rw [former]; decide)
    (by rw [latter]; decide)
  have back := notGreater right middle left inRight inMiddle inLeft
    (by rw [reversed middle right, latter]; decide) (by rw [reversed left middle, former]; decide)
  rw [reversed left right] at back
  cases compared : order left right with
  | lt => exact absurd (by rw [compared]; rfl) back
  | eq => rfl
  | gt => exact absurd compared ahead

end Preorders

end Polystore.Memory

namespace Polystore

/-! ### Values in an order -/

namespace Value

variable {left middle right : Value}

/-- Whether a value is in an order with itself. -/
def isOrdered (value : Value) : Bool := (value.order? value).isSome

/-- **Values are in an order with each other** if each is with itself and they are of one kind. -/
theorem isSome_order?_iff :
    (left.order? right).isSome = true ↔
      left.isOrdered = true ∧ right.isOrdered = true ∧ left.sortKind = right.sortKind := by
  cases left <;> cases right <;>
    simp [isOrdered, order?, sortKind, text?, Native.asNumber?, Binary64.order?]

theorem isSome_order?_comm : (left.order? right).isSome = (right.order? left).isSome := by
  rw [Bool.eq_iff_iff, isSome_order?_iff, isSome_order?_iff]
  constructor
  · exact fun ⟨former, latter, same⟩ => ⟨latter, former, same.symm⟩
  · exact fun ⟨former, latter, same⟩ => ⟨latter, former, same.symm⟩

theorem isSome_order?_trans (former : (left.order? middle).isSome = true)
    (latter : (middle.order? right).isSome = true) : (left.order? right).isSome = true := by
  rw [isSome_order?_iff] at former latter ⊢
  exact ⟨former.1, latter.2.1, former.2.2.trans latter.2.2⟩

/-- An order reads the other way round from right to left. -/
theorem order?_swap (left right : Value) : right.order? left = (left.order? right).map Ordering.swap := by
  cases ordered : left.order? right with
  | none =>
    have unordered : ¬ (right.order? left).isSome = true := by simp [isSome_order?_comm, ordered]
    exact Option.not_isSome_iff_eq_none.mp unordered
  | some order =>
    have present : (right.order? left).isSome = true := by rw [isSome_order?_comm, ordered]; rfl
    obtain ⟨other, turned⟩ := Option.isSome_iff_exists.mp present
    rw [turned, ← rank_eq_of_order? turned, ← rank_eq_of_order? ordered]
    exact congrArg some (@Std.OrientedCmp.eq_swap _ rank _ right left)

end Value

namespace Memory

section Fields

variable {left right : Option Value} {among : Option Value → Prop}

/-- Whether a field holds a value that does not count as absent. -/
def isPresent (field : Option Value) : Bool := (field.filter (!·.isNullish)).isSome

/-- **The comparison of a sort reads the other way round from right to left.** -/
theorem sortOrder_swap (left right : Option Value) :
    sortOrder right left = (sortOrder left right).swap := by
  unfold sortOrder
  cases left.filter (!·.isNullish) with
  | none => cases right.filter (!·.isNullish) <;> rfl
  | some value =>
    cases right.filter (!·.isNullish) with
    | none => rfl
    | some other =>
      show (other.order? value).getD .eq = ((value.order? other).getD .eq).swap
      rw [Value.order?_swap value other]
      cases value.order? other <;> rfl

/-- Values that are in no order with each other count as equal. -/
theorem sortOrder_eq_of_not_comparable (not : ¬ areComparable left right = true) :
    sortOrder left right = .eq := by
  unfold areComparable at not
  unfold sortOrder
  cases former : left.filter (!·.isNullish) with
  | none => simp [former] at not
  | some value =>
    cases latter : right.filter (!·.isNullish) with
    | none => simp [former, latter] at not
    | some other =>
      rw [former, latter] at not
      have unordered : value.order? other = none := by simpa using not
      show (value.order? other).getD .eq = .eq
      rw [unordered]
      rfl

/-- Values of which none is greater than another one are compared by whether they are absent. -/
theorem sortOrder_eq_compareOn
    (level : isPresent left = true → isPresent right = true → sortOrder left right = .eq) :
    sortOrder left right = compareOn isPresent left right := by
  show sortOrder left right = compare (isPresent left) (isPresent right)
  unfold sortOrder isPresent at *
  cases former : left.filter (!·.isNullish) with
  | none => cases right.filter (!·.isNullish) <;> rfl
  | some value =>
    cases latter : right.filter (!·.isNullish) with
    | none => rfl
    | some other =>
      rw [former, latter] at level
      exact level rfl rfl

theorem areComparable_comm (left right : Option Value) :
    areComparable left right = areComparable right left := by
  unfold areComparable
  cases left.filter (!·.isNullish) with
  | none => cases right.filter (!·.isNullish) <;> rfl
  | some value =>
    cases right.filter (!·.isNullish) with
    | none => rfl
    | some other => exact Value.isSome_order?_comm

/-- Values in an order with a present one are in an order with each other. -/
theorem areComparable_trans {middle : Option Value} (present : isPresent middle = true)
    (former : areComparable left middle = true) (latter : areComparable middle right = true) :
    areComparable left right = true := by
  obtain ⟨value, own⟩ := Option.isSome_iff_exists.mp present
  unfold areComparable at *
  rw [own] at former latter
  cases first : left.filter (!·.isNullish) with
  | none => rfl
  | some front =>
    cases second : right.filter (!·.isNullish) with
    | none => rfl
    | some back =>
      rw [first] at former
      rw [second] at latter
      exact Value.isSome_order?_trans former latter

/-- **The values among which sorts compare by a total preorder**: each two of them are in an order with
each other, unless one is absent, or none of them that is present is greater than another one. -/
theorem isTotalPreorder_sortOrder_iff (among : Option Value → Prop) :
    IsTotalPreorder sortOrder among ↔
      (∀ left right, among left → among right → areComparable left right = true) ∨
      (∀ left right, among left → among right → isPresent left = true → isPresent right = true →
        sortOrder left right = .eq) := by
  constructor
  · intro preorder
    by_cases comparable : ∀ left right, among left → among right → areComparable left right = true
    · exact .inl comparable
    · refine .inr fun left right inLeft inRight presentLeft presentRight => ?_
      by_contra unequal
      have within : areComparable left right = true :=
        Classical.not_not.mp fun apart => unequal (sortOrder_eq_of_not_comparable apart)
      -- A value in no order with the two would be equal to both of them, so there is none.
      have whole : ∀ other, among other → areComparable left other = true := by
        intro other inOther
        by_contra apart
        have toLeft : sortOrder left other = .eq := sortOrder_eq_of_not_comparable apart
        have toRight : sortOrder other right = .eq := by
          refine sortOrder_eq_of_not_comparable fun joined => apart ?_
          exact areComparable_trans presentRight within ((areComparable_comm right other).trans joined)
        exact unequal (preorder.equal left other right inLeft inOther inRight toLeft toRight)
      refine comparable fun former latter inFormer inLatter => ?_
      exact areComparable_trans presentLeft ((areComparable_comm former left).trans (whole former inFormer))
        (whole latter inLatter)
  · rintro (comparable | level)
    · exact isTotalPreorder_of_agree fun left right inLeft inRight =>
        sortOrder_eq_totalOrder (comparable left right inLeft inRight)
    · exact isTotalPreorder_of_agree fun left right inLeft inRight =>
        sortOrder_eq_compareOn (level left right inLeft inRight)

end Fields

/-! ### Documents -/

section Documents

variable {sort : Document} {among : Document → Prop}

theorem documentOrder_swap (sort left right : Document) :
    documentOrder sort right left = (documentOrder sort left right).swap := by
  induction sort with
  | nil => rfl
  | cons entry rest hypothesis =>
    obtain ⟨field, direction⟩ := entry
    rw [documentOrder, documentOrder, hypothesis,
      sortOrder_swap (Document.atPath? field left) (Document.atPath? field right), Ordering.swap_then]
    by_cases descending : isDescending direction = true
    · rw [if_pos descending, if_pos descending]
    · rw [if_neg descending, if_neg descending]

/-- **Fields that are compared by total preorders make documents be compared by one.** -/
theorem isTotalPreorder_documentOrder
    (each : ∀ field ∈ Document.keys sort, IsTotalPreorder sortOrder
      fun value => ∃ document, among document ∧ Document.atPath? field document = value) :
    IsTotalPreorder (documentOrder sort) among := by
  induction sort with
  | nil => exact ⟨fun _ _ _ _ => rfl, fun _ _ _ _ _ _ _ level => level, fun _ _ _ _ _ _ _ equal => equal⟩
  | cons entry rest hypothesis =>
    obtain ⟨field, direction⟩ := entry
    have own := (each field List.mem_cons_self).along
    have others := hypothesis fun other member => each other (List.mem_cons_of_mem field member)
    by_cases descending : isDescending direction = true
    · have whole : documentOrder ((field, direction) :: rest) =
          compareLex (fun left right => along (Document.atPath? field) sortOrder right left)
            (documentOrder rest) := by
        funext left right
        rw [documentOrder, if_pos descending, ← sortOrder_swap]
        rfl
      rw [whole]
      exact own.opposite.lex others
    · have whole : documentOrder ((field, direction) :: rest) =
          compareLex (along (Document.atPath? field) sortOrder) (documentOrder rest) := by
        funext left right
        rw [documentOrder, if_neg descending]
        rfl
      rw [whole]
      exact own.lex others

/-- **The documents that every sort puts in order** are those that are compared by a total preorder: no list
of them makes the sort give up or leaves it without a stable arrangement. -/
theorem isTotalPreorder_documentOrder_iff (sort : Document) (among : Document → Prop) :
    IsTotalPreorder (documentOrder sort) among ↔
      ∀ documents : List Document, (∀ document ∈ documents, among document) →
        ∃ rows, sorted? (some sort) documents = some rows ∧
          IsStablySorted (documentOrder sort) documents rows := by
  constructor
  · intro preorder documents inside
    have own := preorder.mono inside
    exact ⟨_, stableSort?_eq own, own.isStablySorted (documentOrder_swap sort)⟩
  · intro sorts
    refine isTotalPreorder_of_isStablySorted (documentOrder_swap sort) fun documents inside => ?_
    obtain ⟨rows, _, stable⟩ := sorts documents inside
    exact ⟨rows, stable⟩

section Found

variable {store : Store} {name : String} {filter sort : Document} {accepted rows : List Document}

/-- Whether a read is answered with the rows: its sort does not give up, and the store stays as it is. -/
def Answers (store : Store) (name : String) (read : Native.Read) (rows : List Document) : Prop :=
  givesUp read (store.documents name) = false ∧ Store.answer (.find name read) store = (.ok rows, store)

/-- A find that only sorts is answered with the sorted documents of its filter. -/
theorem answers_of_sorted? (matched : matching filter (store.documents name) = .ok accepted)
    (sorts : sorted? (some sort) accepted = some rows) :
    Answers store name ⟨filter, some sort, none, none, none⟩ rows := by
  have whole : (sorted (some sort) accepted).map (projected none) = rows := by
    rw [sorted, sorts]
    exact List.map_id _
  constructor
  · rw [givesUp, matched]
    show (sorted? (some sort) accepted).isNone = false
    rw [sorts]
    rfl
  · rw [Store.answer, found, matched]
    exact Prod.ext (congrArg Except.ok whole) rfl

/-- A find that does not give up has sorted the documents of its filter. -/
theorem exists_sorted?_of_givesUp (matched : matching filter (store.documents name) = .ok accepted)
    (persists : givesUp ⟨filter, some sort, none, none, none⟩ (store.documents name) = false) :
    ∃ rows, sorted? (some sort) accepted = some rows := by
  rw [givesUp, matched] at persists
  exact Option.isSome_iff_exists.mp (Option.isNone_eq_false_iff.mp persists)

end Found

/-- **What a find with a sort document answers.** The comparison of two values reads the other way round
from right to left. Among some values it is a total preorder exactly if each two of them are in an order
with each other or one is absent, or if none that is present is greater than another one. Documents that are
compared by a total preorder are those of which every list is sorted stably. Unless the sort gives up, the
answer rearranges the documents that pass the filter. The sort does not give up and the answer is stably
sorted where the comparison is a total preorder of what they hold in each field that is sorted by. It does
not give up on up to twenty documents either, by whatever comparison: only those that are less overtake
others, and they are stably sorted if some arrangement of them is. -/
theorem stablySorted_find (store : Store) (name : String) (filter sort : Document) (accepted : List Document)
    (matched : matching filter (store.documents name) = .ok accepted) :
    (∀ left right, sortOrder right left = (sortOrder left right).swap) ∧
    (∀ among : Option Value → Prop, IsTotalPreorder sortOrder among ↔
      (∀ left right, among left → among right → areComparable left right = true) ∨
      (∀ left right, among left → among right → isPresent left = true → isPresent right = true →
        sortOrder left right = .eq)) ∧
    (∀ among : Document → Prop, IsTotalPreorder (documentOrder sort) among ↔
      ∀ documents : List Document, (∀ document ∈ documents, among document) →
        ∃ rows, sorted? (some sort) documents = some rows ∧
          IsStablySorted (documentOrder sort) documents rows) ∧
    let read : Native.Read := ⟨filter, some sort, none, none, none⟩
    (givesUp read (store.documents name) = false →
      ∃ rows, Answers store name read rows ∧ rows.Perm accepted) ∧
    ((∀ field ∈ Document.keys sort, IsTotalPreorder sortOrder
        fun value => ∃ document, document ∈ accepted ∧ Document.atPath? field document = value) →
      ∃ rows, Answers store name read rows ∧ IsStablySorted (documentOrder sort) accepted rows) ∧
    (accepted.length ≤ 20 →
      ∃ rows, Answers store name read rows ∧ OnlyLessOvertake (documentOrder sort) accepted rows ∧
        (IsStablySorted (documentOrder sort) accepted rows ↔
          ∃ others, IsStablySorted (documentOrder sort) accepted others)) := by
  refine ⟨sortOrder_swap, isTotalPreorder_sortOrder_iff, isTotalPreorder_documentOrder_iff sort, ?_⟩
  intro read
  refine ⟨fun persists => ?_, fun each => ?_, fun few => ?_⟩
  · obtain ⟨rows, sorts⟩ := exists_sorted?_of_givesUp matched persists
    exact ⟨rows, answers_of_sorted? matched sorts, perm_of_stableSort? sorts⟩
  · obtain ⟨rows, sorts, stable⟩ := (isTotalPreorder_documentOrder_iff sort (· ∈ accepted)).mp
      (isTotalPreorder_documentOrder each) accepted fun _ inside => inside
    exact ⟨rows, answers_of_sorted? matched sorts, stable⟩
  · have sorts : sorted? (some sort) accepted = some (sortedBy (precedes (documentOrder sort)) accepted) :=
      stableSort?_of_length_le _ few
    exact ⟨_, answers_of_sorted? matched sorts, onlyLessOvertake_sortedBy _ accepted,
      isStablySorted_sortedBy_iff (documentOrder_swap sort) accepted⟩

/-- Readings of several widths are sorted, with the one that lacks its number in front. -/
theorem stablySorted_find_readings :
    let first : Document := [("site", .string "north"), ("level", .int32 2)]
    let second : Document := [("site", .string "south")]
    let third : Document := [("site", .string "east"), ("level", .int64 1)]
    let readings : Store := [("readings", [first, second, third])]
    let sort : Document := [("level", .int32 1)]
    let read : Native.Read := ⟨[], some sort, none, none, none⟩
    matching [] (Store.documents "readings" readings) = .ok [first, second, third] ∧
      givesUp read (Store.documents "readings" readings) = false ∧
      [second, third, first].Perm [first, second, third] ∧
      Answers readings "readings" read [second, third, first] ∧
      IsStablySorted (documentOrder sort) [first, second, third] [second, third, first] ∧
      [first, second, third].length ≤ 20 ∧
      OnlyLessOvertake (documentOrder sort) [first, second, third] [second, third, first] := by
  intro first second third readings sort read
  have matched : matching [] (Store.documents "readings" readings) = .ok [first, second, third] := rfl
  have persists : givesUp read (Store.documents "readings" readings) = false := rfl
  have rowsOf {rows : List Document} (answers : Answers readings "readings" read rows) :
      rows = [second, third, first] :=
    Except.ok.inj (congrArg Prod.fst answers.2.symm)
  have comparable : ∀ former ∈ [first, second, third], ∀ latter ∈ [first, second, third],
      areComparable (Document.atPath? "level" former) (Document.atPath? "level" latter) = true := by
    decide
  obtain ⟨-, preorder, -, rearranges, sorts, few⟩ :=
    stablySorted_find readings "readings" [] sort [first, second, third] matched
  obtain ⟨rows, answers, permuted⟩ := rearranges persists
  obtain ⟨stableRows, stableAnswers, stable⟩ := sorts fun field member => by
    obtain rfl := List.mem_singleton.mp member
    refine (preorder _).mpr (.inl ?_)
    rintro left right ⟨former, inFormer, rfl⟩ ⟨latter, inLatter, rfl⟩
    exact comparable former inFormer latter inLatter
  obtain ⟨fewRows, fewAnswers, overtakes, -⟩ := few (by decide)
  obtain rfl := rowsOf answers
  obtain rfl := rowsOf stableAnswers
  obtain rfl := rowsOf fewAnswers
  exact ⟨matched, persists, permuted, answers, stable, by decide, overtakes⟩

set_option maxRecDepth 1500 in
/-- Two numbers and a text between them, which is equal to both: among more than twenty documents a later
one that is not less comes in front of the text, and the sort gives up on others. -/
theorem sorted_overtaken :
    let level (value : Value) : Document := [("level", value)]
    let sort : Document := [("level", .int32 1)]
    let others := List.replicate 17 (level (.int32 5))
    let documents := [level (.int32 2), level (.string "high"), level (.int32 1), level (.int32 0)] ++ others
    let rows := [level (.int32 0), level (.int32 2), level (.string "high"), level (.int32 1)] ++ others
    ¬ IsTotalPreorder sortOrder (fun _ => True) ∧
      Answers [("readings", documents)] "readings" ⟨[], some sort, none, none, none⟩ rows ∧
      ¬ IsStablySorted (documentOrder sort) documents rows ∧
      ¬ OnlyLessOvertake (documentOrder sort) documents rows ∧
      givesUp ⟨[], some sort, none, none, none⟩ ([level (.int32 2), level (.int32 2), level (.int32 2),
        level (.string "high"), level (.int32 1), level (.int32 0)] ++ others) = true := by
  refine ⟨fun preorder => ?_, ⟨by decide +kernel, rfl⟩, fun stable => ?_, fun overtakes => ?_,
    by decide +kernel⟩
  · have equal := preorder.equal (some (.int32 2)) (some (.string "high")) (some (.int32 1)) trivial trivial
      trivial rfl rfl
    exact absurd equal (by decide)
  · have ahead := (List.pairwise_cons.mp (List.pairwise_cons.mp stable.pairwise).2).1 [("level", .int32 1)]
      (by simp)
    exact absurd (by decide) ahead
  · obtain ⟨placed, permuted, same, arranged⟩ := overtakes
    obtain ⟨⟨zero, first⟩, others, rfl, rfl, tail⟩ := List.map_eq_cons_iff.mp same
    obtain ⟨two, others, rfl, -, rest⟩ := List.map_eq_cons_iff.mp tail
    obtain ⟨⟨text, second⟩, others, rfl, rfl, -⟩ := List.map_eq_cons_iff.mp rest
    have behind := permuted.subset List.mem_cons_self
    have front := permuted.subset (List.mem_cons_of_mem _ (List.mem_cons_of_mem _ List.mem_cons_self))
    simp [List.replicate_succ] at behind front
    have apart := (List.pairwise_cons.mp arranged).1 ([("level", .string "high")], second)
      (List.mem_cons_of_mem _ List.mem_cons_self)
    rcases apart with less | less
    · omega
    · have unequal : documentOrder [("level", .int32 1)] [("level", .int32 0)] [("level", .string "high")] = .lt :=
        less
      exact absurd unequal (by decide)

end Documents

end Memory

end Polystore
