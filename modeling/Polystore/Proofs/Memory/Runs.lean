/-
**Runs that are joined.**

What is true of `runSort?` by any test and what is true of it by an order is proved in one go: an `Aim`
says how a list may be arranged and whether a sort may give up, and that merges, stretches in order and short
sorts achieve it.

* `Aim.covers_joined?`: two neighbouring runs are joined to one that covers what both covered;
* `Aim.covers_joinedDownTo?`, `Aim.covers_allJoined?`: so are all runs of a list, in the order of a tree;
* `Aim.yields_runSort?`: the sort by runs achieves the aim if the sort of the unsorted ones does.
-/

import Polystore.Memory.StableSort
import Polystore.Proofs.Memory.Merging

namespace Polystore.Memory

variable {α β γ : Type}

/-! ### Results that may be missing -/

/-- Whether a result is as wanted, or missing where it may be. -/
def Yields (mayGiveUp : Prop) (result : Option β) (wanted : β → Prop) : Prop :=
  match result with
  | some value => wanted value
  | none => mayGiveUp

section Yields

variable {mayGiveUp : Prop} {result : Option β} {wanted : β → Prop}

theorem Yields.bind {next : β → Option γ} {goal : γ → Prop} (first : Yields mayGiveUp result wanted)
    (second : ∀ value, wanted value → Yields mayGiveUp (next value) goal) :
    Yields mayGiveUp (result.bind next) goal := by
  cases result with
  | some value => exact second value first
  | none => exact first

theorem Yields.map {change : β → γ} {goal : γ → Prop} (first : Yields mayGiveUp result wanted)
    (second : ∀ value, wanted value → goal (change value)) : Yields mayGiveUp (result.map change) goal := by
  cases result with
  | some value => exact second value first
  | none => exact first

end Yields

/-! ### Aims -/

/-- What a sort by a test aims at: how a list may be arranged, and whether the sort may give up instead.
Merges, stretches in order and short sorts achieve it. -/
structure Aim (precedes : α → α → Bool) where
  mayGiveUp : Prop
  IsMet : List α → List α → Prop
  nil : IsMet [] []
  length_eq : ∀ {items arranged}, IsMet items arranged → arranged.length = items.length
  merged : ∀ {first second former latter}, IsMet first former → IsMet second latter →
    IsMet (first ++ second) (neighboursMerged precedes former latter)
  natural : ∀ items, IsMet (items.take (naturalRun precedes items).length) (naturalRun precedes items)
  small : ∀ items, Yields mayGiveUp (smallSort? precedes items) (IsMet items)

namespace Aim

/-- Whether a sort achieves an aim on every list. -/
def IsMetBy {precedes : α → α → Bool} (aim : Aim precedes) (sort : List α → Option (List α)) : Prop :=
  ∀ items, Yields aim.mayGiveUp (sort items) (aim.IsMet items)

/-- A run that stands for a part of a list: arranged as is aimed at, or as it is. -/
def Covers {precedes : α → α → Bool} (aim : Aim precedes) (part : List α) (run : Run α) : Prop :=
  if run.isSorted then aim.IsMet part run.items else run.items = part

/-- Runs that stand for the parts of a list one after the other. -/
inductive CoverAll {precedes : α → α → Bool} (aim : Aim precedes) : List α → List (Run α) → Prop
  | nil : CoverAll aim [] []
  | cons {part rest run runs} (covers : aim.Covers part run) (others : CoverAll aim rest runs) :
    CoverAll aim (part ++ rest) (run :: runs)

/-- Runs with their depths, last one first, that stand for the parts of a list. -/
inductive CoverFront {precedes : α → α → Bool} (aim : Aim precedes) : List α → List (Run α × Nat) → Prop
  | nil : CoverFront aim [] []
  | cons {before part front run depth} (others : CoverFront aim before front)
    (covers : aim.Covers part run) : CoverFront aim (before ++ part) ((run, depth) :: front)

variable {precedes : α → α → Bool} (aim : Aim precedes) {part other before rest items : List α}
  {run last : Run α} {runs : List (Run α)} {front : List (Run α × Nat)} {sort : List α → Option (List α)}

theorem length_of_covers (covers : aim.Covers part run) : run.items.length = part.length := by
  unfold Covers at covers
  split at covers
  · exact aim.length_eq covers
  · rw [covers]

/-! ### Cutting a list into runs -/

theorem naturalRun_ne_nil (first : α) (rest : List α) : naturalRun precedes (first :: rest) ≠ [] := by
  cases rest with
  | nil => exact List.cons_ne_nil _ _
  | cons second rest =>
    rw [naturalRun]
    split
    · exact mt List.reverse_eq_nil_iff.mp (List.cons_ne_nil _ _)
    · exact List.cons_ne_nil _ _

/-- A list begins with the part that its first run stands for. -/
theorem covers_nextRun? (eager : Bool) (least : Nat) (first : α) (rest : List α) :
    Yields aim.mayGiveUp (nextRun? precedes eager least first rest) fun run =>
      ∃ part others, first :: rest = part ++ others ∧ part ≠ [] ∧ aim.Covers part run := by
  have cut (length : Nat) : first :: rest = (first :: rest).take length ++ (first :: rest).drop length :=
    (List.take_append_drop length _).symm
  show Yields _ (if _ then _ else if _ then _ else _) _
  split
  · refine ⟨_, _, cut (naturalRun precedes (first :: rest)).length, ?_, aim.natural (first :: rest)⟩
    obtain ⟨head, tail, natural⟩ := List.exists_cons_of_ne_nil (naturalRun_ne_nil first rest)
    rw [natural]
    exact List.cons_ne_nil _ _
  · split
    · exact (aim.small _).map fun arranged met => ⟨_, _, cut 32, List.cons_ne_nil _ _, met⟩
    · exact ⟨_, _, cut (least - 1 + 1), List.cons_ne_nil _ _, rfl⟩

/-- **The runs of a list stand for all of it.** -/
theorem coverAll_runs? (eager : Bool) (least known : Nat) (items : List α) :
    Yields aim.mayGiveUp (runs? precedes eager least known items) (aim.CoverAll (items.drop known)) := by
  induction items generalizing known with
  | nil =>
    rw [runs?, List.drop_nil]
    exact .nil
  | cons first rest hypothesis =>
    cases known with
    | succ known => exact hypothesis known
    | zero =>
      refine (aim.covers_nextRun? eager least first rest).bind fun run ⟨part, others, whole, filled, covers⟩ => ?_
      refine (hypothesis (run.items.length - 1)).bind fun runs all => ?_
      rw [aim.length_of_covers covers] at all
      obtain ⟨head, tail, rfl⟩ := List.exists_cons_of_ne_nil filled
      obtain ⟨-, whole'⟩ := List.cons.inj whole
      have behind : rest.drop ((head :: tail).length - 1) = others := by
        rw [whole']
        exact List.drop_left' rfl
      rw [behind] at all
      show aim.CoverAll (first :: rest) (run :: runs)
      rw [whole]
      exact .cons covers all

/-! ### Joining runs -/

theorem yields_sorted? (sorts : aim.IsMetBy sort) (covers : aim.Covers part run) :
    Yields aim.mayGiveUp (run.sorted? sort) (aim.IsMet part) := by
  unfold Covers at covers
  unfold Run.sorted?
  by_cases sorted : run.isSorted = true
  · rw [if_pos sorted] at covers ⊢
    exact covers
  · rw [if_neg sorted] at covers ⊢
    rw [covers]
    exact sorts part

/-- **Two neighbouring runs are joined** to one that stands for both parts. -/
theorem covers_joined? (sorts : aim.IsMetBy sort) (room : Nat) (first : aim.Covers part run)
    (second : aim.Covers other last) :
    Yields aim.mayGiveUp (run.joined? precedes room sort last) (aim.Covers (part ++ other)) := by
  unfold Run.joined?
  split
  · refine (aim.yields_sorted? sorts first).bind fun former met => ?_
    exact (aim.yields_sorted? sorts second).bind fun latter metToo => aim.merged met metToo
  · rename_i apart
    simp only [Bool.or_eq_true, not_or] at apart
    have unsorted {run : Run α} {part : List α} (not : ¬ run.isSorted = true)
        (covers : aim.Covers part run) : run.items = part := by
      unfold Covers at covers
      rwa [if_neg not] at covers
    show _ ++ _ = part ++ other
    rw [unsorted apart.1.1 first, unsorted apart.1.2 second]

/-- A run is joined with those in front of it, and all of them where that goes down to the root. -/
theorem covers_joinedDownTo? (sorts : aim.IsMetBy sort) (room depth : Nat)
    (fronts : aim.CoverFront before front) (covers : aim.Covers part last) :
    Yields aim.mayGiveUp (joinedDownTo? precedes room sort depth front last) fun (rest, whole) =>
      (depth = 0 → rest = []) ∧ ∃ former latter, aim.CoverFront former rest ∧ aim.Covers latter whole ∧
        former ++ latter = before ++ part := by
  induction fronts generalizing last part with
  | nil => exact ⟨fun _ => rfl, [], part, .nil, covers, rfl⟩
  | @cons before own front run deep others inFront hypothesis =>
    unfold joinedDownTo?
    split
    · refine (aim.covers_joined? sorts room inFront covers).bind fun joined together => ?_
      rw [List.append_assoc]
      exact hypothesis together
    · rename_i shallow
      refine ⟨fun root => ?_, before ++ own, part, .cons others inFront, covers, rfl⟩
      omega

/-- **All runs are joined** to one that stands for the whole list. -/
theorem covers_allJoined? (sorts : aim.IsMetBy sort) (room scale place : Nat)
    (fronts : aim.CoverFront before front) (covers : aim.Covers part last) (all : aim.CoverAll rest runs) :
    Yields aim.mayGiveUp (allJoined? precedes room sort scale front last place runs)
      (aim.Covers (before ++ part ++ rest)) := by
  induction all generalizing front last place before part with
  | nil =>
    refine (aim.covers_joinedDownTo? sorts room 0 fronts covers).map fun (left, whole) ⟨root, joined⟩ => ?_
    obtain ⟨former, latter, inFront, together, same⟩ := joined
    rw [root rfl] at inFront
    cases inFront
    rw [List.append_nil, ← same]
    exact together
  | @cons own rest next runs behind others hypothesis =>
    refine (aim.covers_joinedDownTo? sorts room _ fronts covers).bind fun (left, whole) ⟨_, joined⟩ => ?_
    obtain ⟨former, latter, inFront, together, same⟩ := joined
    rw [← List.append_assoc, ← same]
    exact hypothesis _ (.cons inFront together) behind

/-- **The sort by runs achieves what the sort of its parts does.** -/
theorem yields_runSort? (sorts : aim.IsMetBy sort) (eager : Bool) (room : Nat) :
    aim.IsMetBy (runSort? precedes eager room sort) := by
  intro items
  refine (aim.coverAll_runs? eager (leastRun items.length) 0 items).bind fun runs all => ?_
  rw [List.drop_zero] at all
  cases all with
  | nil => exact aim.nil
  | cons covers others =>
    refine (aim.covers_allJoined? sorts room _ 0 .nil covers others).bind fun whole together => ?_
    exact aim.yields_sorted? sorts together

end Aim

end Polystore.Memory
