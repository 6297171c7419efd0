/-
**Comparisons that are total preorders of some items.**

Sorts only compare the items that they are given, so it is among these that a comparison has to be an order.

* `isTotalPreorder_iff`: it is a transitive one of the items alone;
* `IsTotalPreorder.opposite`, `IsTotalPreorder.lex`, `IsTotalPreorder.along`: read the other way round, one
  after the other, and by what is read off the items.
-/

import Polystore.Proofs.Memory.Sorting

namespace Polystore.Memory

variable {α β : Type} {order : α → α → Ordering} {among : α → Prop}

/-- A comparison that is a total preorder of the given items: it reads the other way round from right to
left, and neither being not greater nor being equal is lost on the way over a third item. -/
structure IsTotalPreorder (order : α → α → Ordering) (among : α → Prop) : Prop where
  reversed : ∀ left right, among left → among right → order right left = (order left right).swap
  notGreater : ∀ left middle right, among left → among middle → among right →
    order left middle ≠ .gt → order middle right ≠ .gt → order left right ≠ .gt
  equal : ∀ left middle right, among left → among middle → among right →
    order left middle = .eq → order middle right = .eq → order left right = .eq

/-- A comparison is a total preorder of some items exactly if it is a transitive one among them alone. -/
theorem isTotalPreorder_iff :
    IsTotalPreorder order among ↔ Std.TransCmp (along (Subtype.val : Subtype among → α) order) := by
  constructor
  · intro preorder
    have reversed (left right : Subtype among) : along Subtype.val order left right =
        (along Subtype.val order right left).swap :=
      preorder.reversed right.1 left.1 right.2 left.2
    refine { eq_swap := reversed _ _, isLE_trans := fun {left middle right} former latter => ?_ }
    rw [Ordering.isLE_iff_ne_gt] at former latter ⊢
    exact preorder.notGreater left.1 middle.1 right.1 left.2 middle.2 right.2 former latter
  · intro ordered
    refine ⟨fun left right inLeft inRight => ?_, fun left middle right inLeft inMiddle inRight => ?_,
      fun left middle right inLeft inMiddle inRight => ?_⟩
    · exact ordered.eq_swap (a := ⟨right, inRight⟩) (b := ⟨left, inLeft⟩)
    · intro former latter
      have whole := ordered.isLE_trans (a := ⟨left, inLeft⟩) (b := ⟨middle, inMiddle⟩)
        (c := ⟨right, inRight⟩) (Ordering.isLE_iff_ne_gt.mpr former)
        (Ordering.isLE_iff_ne_gt.mpr latter)
      exact Ordering.isLE_iff_ne_gt.mp whole
    · intro former latter
      exact @Std.TransCmp.eq_trans _ (along Subtype.val order) ordered ⟨left, inLeft⟩ ⟨middle, inMiddle⟩
        ⟨right, inRight⟩ former latter

/-- A comparison that agrees with an order of everything. -/
theorem isTotalPreorder_of_agree {other : α → α → Ordering} [Std.TransCmp other]
    (agree : ∀ left right, among left → among right → order left right = other left right) :
    IsTotalPreorder order among := by
  have same : along (Subtype.val : Subtype among → α) order = along Subtype.val other := by
    funext left right
    exact agree left.1 right.1 left.2 right.2
  rw [isTotalPreorder_iff, same]
  infer_instance

/-- A total preorder is one of fewer items as well. -/
theorem IsTotalPreorder.mono {fewer : List α} (preorder : IsTotalPreorder order among)
    (inside : ∀ item ∈ fewer, among item) : IsTotalPreorder order (· ∈ fewer) where
  reversed left right inLeft inRight := preorder.reversed left right (inside left inLeft) (inside right inRight)
  notGreater left middle right inLeft inMiddle inRight :=
    preorder.notGreater left middle right (inside left inLeft) (inside middle inMiddle) (inside right inRight)
  equal left middle right inLeft inMiddle inRight :=
    preorder.equal left middle right (inside left inLeft) (inside middle inMiddle) (inside right inRight)

/-- A total preorder read from right to left. -/
theorem IsTotalPreorder.opposite (preorder : IsTotalPreorder order among) :
    IsTotalPreorder (fun left right => order right left) among := by
  rw [isTotalPreorder_iff] at preorder ⊢
  exact @Std.TransCmp.opposite _ (along Subtype.val order) preorder

/-- A total preorder, and a second one where the first finds no difference. -/
theorem IsTotalPreorder.lex {other : α → α → Ordering} (first : IsTotalPreorder order among)
    (second : IsTotalPreorder other among) : IsTotalPreorder (compareLex order other) among := by
  rw [isTotalPreorder_iff] at first second ⊢
  exact inferInstanceAs (Std.TransCmp (compareLex (along Subtype.val order) (along Subtype.val other)))

/-- Items are compared by a total preorder of what is read off them. -/
theorem IsTotalPreorder.along {reading : β → α} {among : β → Prop}
    (preorder : IsTotalPreorder order fun value => ∃ item, among item ∧ reading item = value) :
    IsTotalPreorder (along reading order) among := by
  refine ⟨fun left right inLeft inRight => ?_, fun left middle right inLeft inMiddle inRight => ?_,
    fun left middle right inLeft inMiddle inRight => ?_⟩
  · exact preorder.reversed _ _ ⟨left, inLeft, rfl⟩ ⟨right, inRight, rfl⟩
  · exact preorder.notGreater _ _ _ ⟨left, inLeft, rfl⟩ ⟨middle, inMiddle, rfl⟩ ⟨right, inRight, rfl⟩
  · exact preorder.equal _ _ _ ⟨left, inLeft, rfl⟩ ⟨middle, inMiddle, rfl⟩ ⟨right, inRight, rfl⟩

end Polystore.Memory
