/-
**Sorting few items by a test.**

`settled` and `sortedBy` put each item among the ones before it. The others compare fewer times:
`merged` joins two lists from the front, `mergedBothWays?` from both ends at once, `sortedByFour` begins
with the first four items by pairs, and `smallSort?` sorts a short list by halves. Where the test is that of
an order they all do the same; otherwise each goes its own way, and `mergedBothWays?` gives up if its ends
do not meet.
-/

namespace Polystore.Memory

/-- Puts an item among items that stand last one first: it moves past those that it is to precede, up
to the first one that it is not. -/
def settled {α : Type} (precedes : α → α → Bool) (item : α) : List α → List α
  | [] => [item]
  | last :: others =>
    if precedes item last then last :: settled precedes item others else item :: last :: others

/-- Items settled one after the other among the ones that are placed. -/
def settledAfter {α : Type} (precedes : α → α → Bool) (placed items : List α) : List α :=
  (items.foldl (fun placed item => settled precedes item placed) placed.reverse).reverse

/-- The items in order: each in turn is settled among the ones before it. -/
def sortedBy {α : Type} (precedes : α → α → Bool) (items : List α) : List α :=
  (items.foldl (fun placed item => settled precedes item placed) []).reverse

section Sorts

variable {α : Type} (precedes : α → α → Bool)

/-- Two lists merged: in front of each item of the first one go those of the second one that precede
it, up to the first one that does not. -/
def merged : List α → List α → List α
  | [], second => second
  | item :: rest, second =>
    second.takeWhile (precedes · item) ++ item :: merged rest (second.dropWhile (precedes · item))

/-- Two lists merged from the back. -/
def mergedFromBack (first second : List α) : List α :=
  (merged (fun later earlier => precedes earlier later) second.reverse first.reverse).reverse

/-- Two lists merged from the side of the shorter one. -/
def neighboursMerged (first second : List α) : List α :=
  if first.length ≤ second.length then merged precedes first second else mergedFromBack precedes first second

/-- What is left of a list when so many items are gone from its front and so many from its back, unless
that is more than there are. -/
def remaining? (front back : Nat) (items : List α) : Option (List α) :=
  if front + back ≤ items.length then some ((items.take (items.length - back)).drop front) else none

/-- As many items from the front of a merge as the first list has, each with whether it is from there. -/
def takenFront (first second : List α) : List (α × Bool) :=
  (merged (fun left right => precedes left.1 right.1) (first.map (·, true)) (second.map (·, false))).take
    first.length

/-- As many items from the back of a merge. -/
def takenBack (first second : List α) : List (α × Bool) :=
  (mergedFromBack (fun left right => precedes left.1 right.1) (first.map (·, true))
    (second.map (·, false))).drop second.length

/-- Two lists, the second one at most by one item longer, merged from both ends: neither end knows what the
other one takes, and what remains stays in between. Nothing is made of them if some item is taken twice. -/
def mergedBothWays? (first second : List α) : Option (List α) := do
  let front := takenFront precedes first second
  let back := takenBack precedes first second
  let left ← remaining? (front.countP (·.2)) (back.countP (·.2)) first
  let right ← remaining? (front.countP (!·.2)) (back.countP (!·.2)) second
  return front.map Prod.fst ++ (left ++ right) ++ back.map Prod.fst

/-- Two items in order. -/
def pairSorted (first second : α) : List α :=
  if precedes second first then [second, first] else [first, second]

/-- Two pairs in order, merged by their outer items and then by the other two. -/
def pairsMerged : List α → List α → List α
  | [lower, upper], [below, above] =>
    match precedes below lower, precedes above upper with
    | false, false => lower :: pairSorted precedes upper below ++ [above]
    | true, false => below :: pairSorted precedes lower upper ++ [above]
    | false, true => lower :: pairSorted precedes below above ++ [upper]
    | true, true => below :: pairSorted precedes lower above ++ [upper]
  | first, second => merged precedes first second

/-- Items in order: the first four by pairs, the others settled one after the other. -/
def sortedByFour : List α → List α
  | first :: second :: third :: fourth :: others =>
    settledAfter precedes
      (pairsMerged precedes (pairSorted precedes first second) (pairSorted precedes third fourth)) others
  | items => sortedBy precedes items

/-- Items in order: the first eight by fours, the others settled one after the other. -/
def sortedByEight? (items : List α) : Option (List α) := do
  let eight ← mergedBothWays? precedes (sortedByFour precedes (items.take 4))
    (sortedByFour precedes ((items.drop 4).take 4))
  return settledAfter precedes eight (items.drop 8)

/-- A short list in order: each half on its own, and then both merged. -/
def smallSort? (items : List α) : Option (List α) :=
  let half := items.length / 2
  let former := items.take half
  let latter := items.drop half
  if items.length < 8 then mergedBothWays? precedes (sortedBy precedes former) (sortedBy precedes latter)
  else if items.length < 16 then
    mergedBothWays? precedes (sortedByFour precedes former) (sortedByFour precedes latter)
  else do mergedBothWays? precedes (← sortedByEight? precedes former) (← sortedByEight? precedes latter)

end Sorts

/-- Settling an item adds it to the items that were there. -/
theorem perm_settled {α : Type} (precedes : α → α → Bool) (item : α) (placed : List α) :
    (settled precedes item placed).Perm (item :: placed) := by
  induction placed with
  | nil => exact .refl _
  | cons last others hypothesis =>
    unfold settled
    split
    · exact (hypothesis.cons last).trans (.swap ..)
    · exact .refl _

/-- Settling items adds them to the ones that were there. -/
theorem perm_settledAfter {α : Type} (precedes : α → α → Bool) (placed items : List α) :
    (settledAfter precedes placed items).Perm (placed ++ items) := by
  suffices general : ∀ placed : List α,
      (items.foldl (fun placed item => settled precedes item placed) placed).Perm (items ++ placed) from
    (List.reverse_perm _).trans ((general _).trans
      (((List.reverse_perm placed).append_left items).trans List.perm_append_comm))
  induction items with
  | nil => exact fun placed => .refl _
  | cons first rest hypothesis =>
    intro placed
    exact (hypothesis _).trans (((perm_settled precedes first placed).append_left rest).trans
      List.perm_middle)

/-- Sorting neither loses nor adds items. -/
theorem perm_sortedBy {α : Type} (precedes : α → α → Bool) (items : List α) :
    (sortedBy precedes items).Perm items :=
  perm_settledAfter precedes [] items

end Polystore.Memory
