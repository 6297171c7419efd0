/-
**Steps of different kinds commute.**

A `Call` is a step, or a group whose clauses are put together by calls of their own. Lists of calls are
`Rearranged` when one is the other in another order that keeps the order within each kind, at the top or
inside of groups.

* `refine_comm`: two steps of different kinds give one query in either order;
* `refineAll_eq_of_filter_eq`: what a list of steps comes to depends on the steps of each kind alone;
* `build_eq_of_rearranged`: rearranged calls build the same query;
* `joins_clauses_refineAll`: joins and clauses stand in the order of their steps.
-/

import Mathlib.Data.List.Basic
import Polystore.Query.Refinement

namespace Polystore

namespace Refinement

/-- The kinds of steps. All conditions are of one kind, and so are all joins. -/
inductive Kind where
  | table
  | shownAs
  | select
  | distinct
  | clause
  | join
  | groupBy
  | orderBy
  | limit
  | offset
  | load
  deriving DecidableEq

def kind : Refinement → Kind
  | table _ => .table
  | shownAs _ => .shownAs
  | select _ => .select
  | distinct _ => .distinct
  | clause _ _ => .clause
  | join _ => .join
  | groupBy _ => .groupBy
  | orderBy _ _ => .orderBy
  | limit _ => .limit
  | offset _ => .offset
  | load _ _ => .load

/-- The clause that a step adds. -/
def clause? : Refinement → Option Clause
  | clause connective predicate => some (connective, predicate)
  | _ => none

/-- The join that a step adds. -/
def join? : Refinement → Option Join
  | join given => some given
  | _ => none

end Refinement

namespace Query

open Refinement (Kind)

section Steps

variable {query : Query} {first second step : Refinement} {left right before rest : List Refinement}

/-- Naming a table anew keeps its name and changes nothing else. -/
theorem showAs_eq (shown : String) (query : Query) :
    query.showAs shown =
      { query with table := some ⟨(query.table.map TableRef.name).getD "", some shown⟩ } := by
  unfold showAs
  cases query.table <;> rfl

/-- **Steps of different kinds commute.** -/
theorem refine_comm (different : first.kind ≠ second.kind) :
    (query.refine first).refine second = (query.refine second).refine first := by
  cases first <;> cases second
  case table.table | shownAs.shownAs | select.select | distinct.distinct | clause.clause | join.join
    | groupBy.groupBy | orderBy.orderBy | limit.limit | offset.offset | load.load =>
    exact absurd rfl different
  all_goals simp only [refine, bindTable, showAs_eq, addClause, addOrder, withLimit, withOffset,
    Option.map_some, Option.getD_some, Option.bind_some]

/-- A step moves to the front of steps of other kinds. -/
theorem refineAll_move (query : Query) (others : ∀ other ∈ before, other.kind ≠ step.kind) :
    query.refineAll (before ++ step :: rest) = query.refineAll (step :: (before ++ rest)) := by
  induction before generalizing query with
  | nil => rfl
  | cons other before hypothesis =>
    have behind := hypothesis (query.refine other) fun one member =>
      others one (List.mem_cons_of_mem _ member)
    have swapped : (query.refine other).refine step = (query.refine step).refine other :=
      refine_comm (others other List.mem_cons_self)
    show (query.refine other).refineAll (before ++ step :: rest) = _
    rw [behind]
    show refineAll ((query.refine other).refine step) (before ++ rest) = _
    rw [swapped]
    rfl

/-- **Steps depend on their order within each kind alone.** -/
theorem refineAll_eq_of_filter_eq (query : Query)
    (same : ∀ kind, left.filter (·.kind = kind) = right.filter (·.kind = kind)) :
    query.refineAll left = query.refineAll right := by
  induction left generalizing query right with
  | nil =>
    cases right with
    | nil => rfl
    | cons step rest => simpa using same step.kind
  | cons step left hypothesis =>
    have own := same step.kind
    rw [List.filter_cons_of_pos (by simp)] at own
    obtain ⟨before, after, rfl, others, tail⟩ := List.filter_eq_cons_iff.mp own.symm
    have unlike : ∀ other ∈ before, other.kind ≠ step.kind := fun other member alike =>
      others other member (by simpa using alike)
    rw [refineAll_move query unlike]
    refine hypothesis (query.refine step) fun kind => ?_
    have whole := same kind
    by_cases alike : step.kind = kind
    · subst alike
      have none : before.filter (·.kind = step.kind) = [] :=
        List.filter_eq_nil_iff.mpr fun other member => by simpa using unlike other member
      rw [List.filter_append, none, List.nil_append, tail.2]
    · rw [List.filter_append] at whole ⊢
      rwa [List.filter_cons_of_neg (by simpa using alike),
        List.filter_cons_of_neg (by simpa using alike)] at whole

end Steps

/-! ### Calls -/

/-- One call on a query that is put together: a step, or a group of clauses with the calls on the empty
query that make them. -/
inductive Call where
  | step (refinement : Refinement)
  | group (connective : Connective) (calls : List Call)

namespace Call

mutual

/-- The step that a call comes to. -/
def refinement : Call → Refinement
  | step given => given
  | group connective calls => .clauseGroup connective (refinements calls)

/-- The steps that calls come to. -/
def refinements : List Call → List Refinement
  | [] => []
  | call :: rest => call.refinement :: refinements rest

end

/-- The kind of a call. A group is a condition. -/
def kind : Call → Refinement.Kind
  | step given => given.kind
  | group _ _ => .clause

theorem kind_refinement (call : Call) : call.refinement.kind = call.kind := by
  cases call <;> simp only [refinement, kind, Refinement.clauseGroup, Refinement.kind]

theorem refinements_eq_map (calls : List Call) : refinements calls = calls.map refinement := by
  induction calls with
  | nil => rfl
  | cons call rest hypothesis => rw [refinements, hypothesis, List.map_cons]

/-- **Lists of calls that are rearrangements of each other**: one is the other in another order, with the
calls of each kind in the same order, or they differ by such a rearrangement of the calls of a group. -/
inductive Rearranged : List Call → List Call → Prop
  | reorder {left right : List Call}
      (same : ∀ kind, left.filter (·.kind = kind) = right.filter (·.kind = kind)) :
      Rearranged left right
  | inside (before after : List Call) (connective : Connective) {left right : List Call}
      (inner : Rearranged left right) :
      Rearranged (before ++ group connective left :: after) (before ++ group connective right :: after)
  | trans {left middle right : List Call} (one : Rearranged left middle)
      (other : Rearranged middle right) : Rearranged left right

end Call

/-- The query after a list of calls. -/
def build (query : Query) (calls : List Call) : Query := query.refineAll (Call.refinements calls)

section Calls

open Call (Rearranged)

variable {query : Query} {left right : List Call}

theorem filter_refinements (calls : List Call) (kind : Refinement.Kind) :
    (Call.refinements calls).filter (·.kind = kind) =
      (calls.filter (·.kind = kind)).map Call.refinement := by
  rw [Call.refinements_eq_map, List.filter_map]
  refine congrArg (List.map Call.refinement) (List.filter_congr fun call _ => ?_)
  simp only [Function.comp_apply, Call.kind_refinement]

/-- **Rearranged calls build the same query.** -/
theorem build_eq_of_rearranged (query : Query) (rearranged : Rearranged left right) :
    query.build left = query.build right := by
  induction rearranged generalizing query with
  | reorder same =>
    refine refineAll_eq_of_filter_eq query fun kind => ?_
    rw [filter_refinements, filter_refinements, same kind]
  | inside before after connective _ hypothesis =>
    have group : ∀ calls, (Call.group connective calls).refinement =
        .clause connective (.group (Query.unbound.build calls).clauses) := fun calls => by
      rw [Call.refinement]
      rfl
    unfold build
    simp only [Call.refinements_eq_map, List.map_append, List.map_cons, group, hypothesis]
  | trans _ _ one other => exact (one query).trans (other query)

/-- The join that a step adds stands behind the others. -/
theorem joins_refine (step : Refinement) : (query.refine step).joins = query.joins ++ step.join?.toList := by
  cases step with
  | join given => rfl
  | shownAs shown => exact (congrArg joins (showAs_eq shown query)).trans (List.append_nil _).symm
  | _ => exact (List.append_nil _).symm

/-- The clause that a step adds stands behind the others. -/
theorem clauses_refine (step : Refinement) :
    (query.refine step).clauses = query.clauses ++ step.clause?.toList := by
  cases step with
  | clause connective predicate => rfl
  | shownAs shown => exact (congrArg clauses (showAs_eq shown query)).trans (List.append_nil _).symm
  | _ => exact (List.append_nil _).symm

/-- **Joins and clauses stand in the order of their steps**, behind those that were there. -/
theorem joins_clauses_refineAll (query : Query) (steps : List Refinement) :
    (query.refineAll steps).joins = query.joins ++ steps.filterMap Refinement.join? ∧
      (query.refineAll steps).clauses = query.clauses ++ steps.filterMap Refinement.clause? := by
  induction steps generalizing query with
  | nil => exact ⟨(List.append_nil _).symm, (List.append_nil _).symm⟩
  | cons step rest hypothesis =>
    obtain ⟨joins, clauses⟩ := hypothesis (query.refine step)
    have split {α : Type} (part? : Refinement → Option α) :
        (step :: rest).filterMap part? = (part? step).toList ++ rest.filterMap part? := by
      rw [List.filterMap_cons]
      cases part? step <;> rfl
    rw [split, split, ← List.append_assoc, ← List.append_assoc, ← joins_refine, ← clauses_refine]
    exact ⟨joins, clauses⟩

end Calls

end Query

end Polystore
