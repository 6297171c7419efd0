/-
**The stable sort.**

Up to twenty items are settled one after the other. A longer list is cut into runs: stretches that are in
order already, and others of a set length, which are sorted at once where the list is short and left as
they are where it is long. Neighbouring runs are joined in the order of a balanced tree. Two runs that are
not sorted are only put together, and what is not sorted when it meets a sorted run, or at the end, is
sorted by `quickSort?`.

The sort asks for the test of an order. With any other one it may give up, or arrange the items in
any way.
-/

import Polystore.Memory.SmallSort

namespace Polystore.Memory

/-- Neighbouring items of a list that is being sorted. -/
structure Run (α : Type) where
  items : List α
  isSorted : Bool

section Sorts

variable {α : Type} (precedes : α → α → Bool)

/-- Items as long as each of them follows the one before. -/
def followers (follows : α → α → Bool) : α → List α → List α
  | _, [] => []
  | last, next :: rest => if follows last next then next :: followers follows next rest else []

/-- The longest stretch at the front of a list that is in order, or that is once it is turned round. -/
def naturalRun : List α → List α
  | first :: second :: rest =>
    if precedes second first then
      (first :: followers (fun last next => precedes next last) first (second :: rest)).reverse
    else first :: followers (fun last next => !precedes next last) first (second :: rest)
  | items => items

/-- The run that a list begins with. -/
def nextRun? (eager : Bool) (least : Nat) (first : α) (rest : List α) : Option (Run α) :=
  let natural := naturalRun precedes (first :: rest)
  if least ≤ natural.length then some ⟨natural, true⟩
  else if eager then (smallSort? precedes ((first :: rest).take 32)).map (⟨·, true⟩)
  else some ⟨first :: rest.take (least - 1), false⟩

/-- The runs of a list, of which so many items are in a run already. -/
def runs? (eager : Bool) (least : Nat) : Nat → List α → Option (List (Run α))
  | _, [] => some []
  | known + 1, _ :: rest => runs? eager least known rest
  | 0, first :: rest => do
    let run ← nextRun? precedes eager least first rest
    let others ← runs? eager least (run.items.length - 1) rest
    return run :: others

/-- The items of a run in order, given how to sort the ones that are not. -/
def Run.sorted? (sort : List α → Option (List α)) (run : Run α) : Option (List α) :=
  if run.isSorted then some run.items else sort run.items

/-- Two neighbouring runs as one. Unsorted ones stay so while they fit into the room that there is. -/
def Run.joined? (room : Nat) (sort : List α → Option (List α)) (first second : Run α) : Option (Run α) :=
  if first.isSorted || second.isSorted || room < first.items.length + second.items.length then do
    let former ← first.sorted? sort
    let latter ← second.sorted? sort
    return ⟨neighboursMerged precedes former latter, true⟩
  else some ⟨first.items ++ second.items, false⟩

/-- A run joined with those in front of it that lie as deep or deeper. They stand last one first, each with
the depth of its end. -/
def joinedDownTo? (room : Nat) (sort : List α → Option (List α)) (depth : Nat) :
    List (Run α × Nat) → Run α → Option (List (Run α × Nat) × Run α)
  | [], last => some ([], last)
  | (run, own) :: others, last =>
    if depth ≤ own then do
      joinedDownTo? room sort depth others (← run.joined? precedes room sort last)
    else some ((run, own) :: others, last)

/-- How deep in the tree two neighbours meet: as many bits as the places of their middles, scaled to 63 bits,
have in common. -/
def meetingDepth (scale left middle right : Nat) : Nat :=
  match (scale * (left + middle)) ^^^ (scale * (middle + right)) with
  | 0 => 64
  | apart => 63 - apart.log2

/-- All runs as one, given those in front, last one first, and the last one of them with its place. -/
def allJoined? (room : Nat) (sort : List α → Option (List α)) (scale : Nat) :
    List (Run α × Nat) → Run α → Nat → List (Run α) → Option (Run α)
  | front, last, _, [] => (joinedDownTo? precedes room sort 0 front last).map Prod.snd
  | front, last, place, next :: others => do
    let middle := place + last.items.length
    let depth := meetingDepth scale place middle (middle + next.items.length)
    let (front, whole) ← joinedDownTo? precedes room sort depth front last
    allJoined? room sort scale ((whole, depth) :: front) next middle others

/-- The least length of a run that is taken as it is found: half of a list, 64, or about its root. -/
def leastRun (length : Nat) : Nat :=
  if length ≤ 4096 then min (length - length / 2) 64
  else
    let shift := (1 + length.log2) / 2
    (1 <<< shift + length >>> shift) / 2

/-- A list cut into runs and joined again. -/
def runSort? (eager : Bool) (room : Nat) (sort : List α → Option (List α)) (items : List α) :
    Option (List α) := do
  match ← runs? precedes eager (leastRun items.length) 0 items with
  | [] => return []
  | first :: others =>
    let scale := (1 <<< 62 + items.length - 1) / items.length
    (← allJoined? precedes room sort scale [] first 0 others).sorted? sort

/-- The one of three places whose item lies between the other two. -/
def median (test : Nat → Nat → Bool) (first second third : Nat) : Nat :=
  let below := test first second
  if below == test first third then if test second third ^^ below then third else second else first

/-- A place near the middle of the order, from stretches of a length that begin at three places. -/
def medianPlace (test : Nat → Nat → Bool) (first second third length : Nat) : Nat :=
  if 8 ≤ length then
    let part := length / 8
    let within (start : Nat) := medianPlace test start (start + 4 * part) (start + 7 * part) part
    median test (within first) (within second) (within third)
  else median test first second third
termination_by length

/-- The place of the item that the others are told apart by. -/
def pivotPlace (items : List α) : Nat :=
  let test (left right : Nat) : Bool :=
    match items[left]?, items[right]? with
    | some former, some latter => precedes former latter
    | _, _ => false
  let part := items.length / 8
  medianPlace test 0 (4 * part) (7 * part) part

/-- The items in front of an item and behind it that pass a test. -/
def keptBeside (keeps : α → Bool) (front back : List α) : List α := front.filter keeps ++ back.filter keeps

/-- An item with those in front of it and behind it that pass a test. -/
def keptAround (keeps : α → Bool) (front : List α) (pivot : α) (back : List α) : List α :=
  front.filter keeps ++ pivot :: back.filter keeps

/-- A list in order by parting it at an item, as often as the limit allows. Nothing in it precedes the
bound, if there is one; an item that is no greater than the bound has nothing below it either. -/
def quickSort? : Nat → Option α → List α → Option (List α)
  | limit, bound, items =>
    if items.length ≤ 32 then smallSort? precedes items
    else
      let place := pivotPlace precedes items
      match limit, items.drop place with
      | limit + 1, pivot :: back =>
        let front := items.take place
        let below := keptBeside (precedes · pivot) front back
        if below.isEmpty || bound.any (!precedes · pivot) then do
          let above ← quickSort? limit none (keptBeside (precedes pivot ·) front back)
          return keptAround (!precedes pivot ·) front pivot back ++ above
        else do
          let above ← quickSort? limit (some pivot) (keptAround (!precedes · pivot) front pivot back)
          let below ← quickSort? limit bound below
          return below ++ above
      | _, _ => runSort? precedes true items.length (some ∘ sortedBy precedes) items

/-- A list of more than twenty items in order. -/
def longSort? (items : List α) : Option (List α) :=
  let room := max (items.length - items.length / 2) (min items.length 1000000)
  runSort? precedes (items.length ≤ 64) room
    (fun part => quickSort? precedes (2 * part.length.log2) none part) items

/-- The items in order, unless the sort gives up. -/
def stableSort? (items : List α) : Option (List α) :=
  if items.length ≤ 20 then some (sortedBy precedes items)
  else
    -- Each item carries that it is one of them, so the test only has to be an order among these.
    (longSort? (fun left right => precedes left.1 right.1) items.attach).map (·.map Subtype.val)

end Sorts

end Polystore.Memory
