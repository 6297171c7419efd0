/-
**The truth of a list of clauses.**

`Clause.cut` cuts a list of clauses before every `OR` behind the first clause. `Clause.truth` is true
if all conditions of some piece are, or if there are no clauses. `Predicate.truth` carries this
through groups, over any reading of the conditions that are no groups (`Clause.leaves`).

* `runs_eq_cut`: the lists that filters are made of are the pieces of the clauses;
* `cut_append`: clauses added by `AND` only join the last piece;
* `hold_append`: so they bind nothing that an earlier piece accepts;
* `Clause.hold_mono`: a list of clauses does not become false when its conditions become true.
-/

import Mathlib.Data.List.SplitBy
import Polystore.Native.Filter

namespace Polystore

namespace Clause

variable {α β : Type}

/-- The pieces of a list of clauses, cut before every `OR` behind the first clause. -/
def cut (clauses : List (Connective × α)) : List (List (Connective × α)) :=
  clauses.splitBy fun _ next => next.1 == .and

/-- **The truth of clauses**: some piece is true throughout, or there is no clause. -/
def truth (clauses : List (Connective × Bool)) : Bool :=
  clauses.isEmpty || (cut clauses).any (·.all Prod.snd)

end Clause

mutual

/-- The truth of a condition under a reading of the conditions that are no groups. -/
def Predicate.truth (reading : Predicate → Bool) : Predicate → Bool
  | .group clauses => Clause.truth (Predicate.truths reading clauses)
  | condition => reading condition

/-- The truth of each of a list of clauses, beside their connectives. -/
def Predicate.truths (reading : Predicate → Bool) :
    List (Connective × Predicate) → List (Connective × Bool)
  | [] => []
  | (connective, condition) :: rest =>
    (connective, condition.truth reading) :: Predicate.truths reading rest

end

mutual

/-- The conditions that are no groups, at any depth. -/
def Predicate.leaves : Predicate → List Predicate
  | .group clauses => Clause.leaves clauses
  | condition => [condition]

/-- The conditions of a list of clauses that are no groups, at any depth. -/
def Clause.leaves : List (Connective × Predicate) → List Predicate
  | [] => []
  | (_, condition) :: rest => condition.leaves ++ Clause.leaves rest

end

namespace Predicate

/-- Whether a condition is a piece of SQL. -/
def isRaw : Predicate → Bool
  | raw _ _ => true
  | _ => false

/-- The column that a condition is about. -/
def column? : Predicate → Option String
  | compare column _ _ | oneOf column _ _ | between column _ _ _ | isNull column _ | like column _ =>
    some column
  | group _ | raw _ _ => none

/-- The values that a condition compares its column with. -/
def operands : Predicate → List Value
  | compare _ _ value => [value]
  | oneOf _ values _ => values
  | between _ low high _ => [low, high]
  | isNull _ _ | like _ _ | group _ | raw _ _ => []

end Predicate

namespace Clause

/-- Whether a list of clauses holds under a reading of the conditions that are no groups. -/
def hold (reading : Predicate → Bool) (clauses : List Clause) : Bool :=
  truth (Predicate.truths reading clauses)

/-- Whether a list of clauses holds by a piece before the last one, which clauses added by `AND` do not
reach. -/
def escapes (reading : Predicate → Bool) (clauses : List Clause) : Bool :=
  (cut clauses).dropLast.any (·.all (·.2.truth reading))

/-! ### The pieces of a list of clauses -/

section Cut

variable {α β : Type}

@[simp] theorem cut_nil : cut ([] : List (Connective × α)) = [] := rfl

@[simp] theorem cut_singleton (clause : Connective × α) : cut [clause] = [[clause]] := rfl

/-- An `OR` begins a new piece. -/
theorem cut_or (clause : Connective × α) (item : α) (rest : List (Connective × α)) :
    cut (clause :: (.or, item) :: rest) = [clause] :: cut ((.or, item) :: rest) := by
  have apart := List.splitBy_append (r := fun (_ next : Connective × α) => next.1 == .and)
    (l := [clause]) (m := (.or, item) :: rest) (by simp)
  exact apart

/-- An `AND` stays in the piece of the clause before it. -/
theorem cut_and (clause : Connective × α) (item : α) (rest : List (Connective × α))
    {first : List (Connective × α)} {others : List (List (Connective × α))}
    (pieces : cut ((.and, item) :: rest) = first :: others) :
    cut (clause :: (.and, item) :: rest) = (clause :: first) :: others := by
  obtain ⟨whole, noEmpty, chains, ends⟩ := List.splitBy_eq_iff.mp pieces
  have present : first ≠ [] := fun empty => noEmpty (by simp [empty])
  obtain ⟨head, tail, rfl⟩ := List.exists_cons_of_ne_nil present
  have headIs : head = (.and, item) := by
    simp only [List.flatten_cons, List.cons_append, List.cons.injEq] at whole
    exact whole.1.symm
  refine List.splitBy_eq_iff.mpr ⟨?_, ?_, ?_, ?_⟩
  · rw [whole]
    rfl
  · simpa using noEmpty
  · intro piece member
    rcases List.mem_cons.mp member with rfl | member
    · refine List.isChain_cons_cons.mpr ⟨?_, chains _ List.mem_cons_self⟩
      rw [headIs]
      rfl
    · exact chains piece (List.mem_cons_of_mem _ member)
  · cases others with
    | nil => exact List.isChain_singleton _
    | cons second others =>
      rw [List.isChain_cons_cons] at ends ⊢
      obtain ⟨⟨_, filled, apart⟩, rest⟩ := ends
      exact ⟨⟨List.cons_ne_nil _ _, filled, by simpa using apart⟩, rest⟩

theorem cut_ne_nil {clauses : List (Connective × α)} (present : clauses ≠ []) : cut clauses ≠ [] :=
  List.splitBy_ne_nil.mpr present

/-- **Filters are made of the pieces of the clauses.** -/
theorem runs_eq_cut (clauses : List (Connective × α)) :
    Native.runs clauses = (cut clauses).map (·.map Prod.snd) := by
  induction clauses with
  | nil => rfl
  | cons clause rest hypothesis =>
    obtain ⟨connective, item⟩ := clause
    match rest with
    | [] => rfl
    | (.or, next) :: rest =>
      rw [cut_or, List.map_cons, ← hypothesis]
      rfl
    | (.and, next) :: rest =>
      obtain ⟨first, others, pieces⟩ :=
        List.exists_cons_of_ne_nil (cut_ne_nil (List.cons_ne_nil (Connective.and, next) rest))
      rw [cut_and _ _ _ pieces]
      rw [pieces] at hypothesis
      simp only [Native.runs, List.map_cons] at hypothesis ⊢
      rw [hypothesis]

/-- An `OR` ends the run before it. -/
theorem runs_or (connective : Connective) (item next : α) (rest : List (Connective × α)) :
    Native.runs ((connective, item) :: (.or, next) :: rest) =
      [item] :: Native.runs ((.or, next) :: rest) := rfl

/-- An item in front of the first run. -/
def pushed (item : α) : List (List α) → List (List α)
  | [] => [[item]]
  | run :: others => (item :: run) :: others

/-- An item behind which an `AND` stands joins the run of that clause. -/
theorem runs_and (connective : Connective) (item next : α) (rest : List (Connective × α)) :
    Native.runs ((connective, item) :: (.and, next) :: rest) =
      pushed item (Native.runs ((.and, next) :: rest)) := by
  conv_lhs => unfold Native.runs
  cases Native.runs ((Connective.and, next) :: rest) <;> rfl

/-- Every item begins the first run of the clauses from it on. -/
theorem exists_runs_cons (connective : Connective) (item : α) (rest : List (Connective × α)) :
    ∃ run runs, Native.runs ((connective, item) :: rest) = (item :: run) :: runs := by
  match rest with
  | [] => exact ⟨[], [], rfl⟩
  | (.or, next) :: rest => exact ⟨[], _, runs_or connective item next rest⟩
  | (.and, next) :: rest =>
    rw [runs_and]
    cases Native.runs ((.and, next) :: rest) with
    | nil => exact ⟨[], [], rfl⟩
    | cons run runs => exact ⟨run, runs, rfl⟩

/-- The truth of clauses, through the lists that filters are made of. -/
theorem truth_eq_runs (clauses : List (Connective × Bool)) :
    truth clauses = (clauses.isEmpty || (Native.runs clauses).any (·.all id)) := by
  rw [truth, runs_eq_cut, List.any_map]
  congr 2
  funext piece
  simp [List.all_map]

/-- **Clauses added by `AND` only join the last piece.** -/
theorem cut_append {clauses added : List (Connective × α)} (present : clauses ≠ [])
    (joined : ∀ clause ∈ added, clause.1 = .and) :
    cut (clauses ++ added) =
      (cut clauses).dropLast ++ [(cut clauses).getLast (cut_ne_nil present) ++ added] := by
  induction clauses with
  | nil => exact absurd rfl present
  | cons clause rest hypothesis =>
    match rest with
    | [] =>
      refine List.splitBy_of_isChain (by simp) (List.isChain_cons.mpr ⟨?_, ?_⟩)
      · intro next member
        simp [joined next (List.mem_of_mem_head? member)]
      · refine List.Pairwise.isChain (List.pairwise_of_forall_mem_list fun _ _ next member => ?_)
        simp [joined next member]
    | (.or, next) :: rest =>
      have tail := hypothesis (List.cons_ne_nil _ _)
      have filled := cut_ne_nil (List.cons_ne_nil (Connective.or, next) rest)
      simp only [List.cons_append, cut_or] at tail ⊢
      rw [tail, List.dropLast_cons_of_ne_nil filled, List.getLast_cons filled, List.cons_append]
    | (.and, next) :: rest =>
      have tail := hypothesis (List.cons_ne_nil _ _)
      obtain ⟨first, others, pieces⟩ :=
        List.exists_cons_of_ne_nil (cut_ne_nil (List.cons_ne_nil (Connective.and, next) rest))
      simp only [List.cons_append, cut_and _ _ _ pieces, pieces] at tail ⊢
      cases others with
      | nil => exact cut_and _ _ _ tail
      | cons second others =>
        rw [List.dropLast_cons_cons, List.cons_append] at tail
        rw [cut_and _ _ _ tail]
        rfl

/-- Renaming what stands beside the connectives does not move the cuts. -/
theorem cut_map (rename : α → β) (clauses : List (Connective × α)) :
    cut (clauses.map fun clause => (clause.1, rename clause.2)) =
      (cut clauses).map (·.map fun clause => (clause.1, rename clause.2)) := by
  induction clauses with
  | nil => rfl
  | cons clause rest hypothesis =>
    match rest with
    | [] => rfl
    | (.or, next) :: rest =>
      simp only [List.map_cons, cut_or] at hypothesis ⊢
      rw [hypothesis]
      rfl
    | (.and, next) :: rest =>
      obtain ⟨first, others, pieces⟩ :=
        List.exists_cons_of_ne_nil (cut_ne_nil (List.cons_ne_nil (Connective.and, next) rest))
      simp only [List.map_cons, pieces] at hypothesis
      simp only [List.map_cons, cut_and _ _ _ pieces, cut_and _ _ _ hypothesis]

end Cut

/-! ### Readings of the conditions -/

theorem truths_eq_map (reading : Predicate → Bool) (clauses : List Clause) :
    Predicate.truths reading clauses =
      clauses.map fun clause => (clause.1, clause.2.truth reading) := by
  induction clauses with
  | nil => rfl
  | cons clause rest hypothesis => rw [Predicate.truths, hypothesis, List.map_cons]

/-- **What holds of a list of clauses, piece by piece.** -/
theorem hold_eq_cut (reading : Predicate → Bool) (clauses : List Clause) :
    hold reading clauses =
      (clauses.isEmpty || (cut clauses).any (·.all (·.2.truth reading))) := by
  rw [hold, truth, truths_eq_map, cut_map, List.any_map, List.isEmpty_map]
  simp [Function.comp_def, List.all_map]

/-- Clauses without an `OR` behind the first one are one piece. -/
theorem cut_of_and {α : Type} {clauses : List (Connective × α)} (present : clauses ≠ [])
    (joined : ∀ clause ∈ clauses.tail, clause.1 = .and) : cut clauses = [clauses] := by
  obtain ⟨first, rest, rfl⟩ := List.exists_cons_of_ne_nil present
  have whole : cut ([first] ++ rest) = _ := cut_append (List.cons_ne_nil first []) joined
  simpa using whole

/-- What holds by a piece before the last one holds. -/
theorem hold_of_escapes {reading : Predicate → Bool} {clauses : List Clause}
    (escaped : escapes reading clauses = true) : hold reading clauses = true := by
  obtain ⟨piece, inside, all⟩ := List.any_eq_true.mp escaped
  rw [hold_eq_cut, Bool.or_eq_true]
  exact .inr (List.any_eq_true.mpr ⟨piece, List.dropLast_subset _ inside, all⟩)

/-- **What clauses added by `AND` say**: they bind where no piece before the last one holds. -/
theorem hold_append (reading : Predicate → Bool) {clauses added : List Clause}
    (joined : ∀ clause ∈ added, clause.1 = .and) :
    hold reading (clauses ++ added) =
      (hold reading clauses && (escapes reading clauses || added.all (·.2.truth reading))) := by
  by_cases present : clauses = []
  · subst present
    rw [List.nil_append, hold_eq_cut]
    by_cases more : added = []
    · subst more
      rfl
    · have filled : added.isEmpty = false := List.isEmpty_eq_false_iff.mpr more
      rw [cut_of_and more fun clause member => joined clause (List.mem_of_mem_tail member), filled]
      show (false || ([added].any _)) = (true && (false || _))
      simp
  · have filled : clauses.isEmpty = false := List.isEmpty_eq_false_iff.mpr present
    have longer : (clauses ++ added).isEmpty = false := by simp [present]
    have pieces := List.dropLast_append_getLast (cut_ne_nil present)
    rw [hold_eq_cut, hold_eq_cut, longer, filled, Bool.false_or, Bool.false_or,
      cut_append present joined, escapes]
    conv_rhs => rw [← pieces]
    rw [List.any_append, List.any_append, List.dropLast_concat]
    simp only [List.any_cons, List.any_nil, Bool.or_false, List.all_append]
    -- Either a piece before the last one holds, or both sides ask for the last one and what is added.
    cases (cut clauses).dropLast.any (·.all (·.2.truth reading)) <;> simp

/-- A clause of a piece is a clause of the list. -/
theorem mem_of_mem_cut {α : Type} {clauses piece : List (Connective × α)} {clause : Connective × α}
    (inside : piece ∈ cut clauses) (member : clause ∈ piece) : clause ∈ clauses := by
  have whole : (cut clauses).flatten = clauses := List.flatten_splitBy _ clauses
  rw [← whole]
  exact List.mem_flatten.mpr ⟨piece, inside, member⟩

/-- A list of clauses stays true when each clause that is true stays so. -/
theorem hold_mono_of_clauses {first second : Predicate → Bool} {clauses : List Clause}
    (each : ∀ clause ∈ clauses, clause.2.truth first = true → clause.2.truth second = true)
    (holds : hold first clauses = true) : hold second clauses = true := by
  rw [hold_eq_cut, Bool.or_eq_true] at holds ⊢
  refine holds.imp id fun some => ?_
  obtain ⟨piece, inside, all⟩ := List.any_eq_true.mp some
  refine List.any_eq_true.mpr ⟨piece, inside, List.all_eq_true.mpr fun clause member => ?_⟩
  exact each clause (mem_of_mem_cut inside member) (List.all_eq_true.mp all clause member)

end Clause

mutual

/-- A condition stays true when each of its parts that is true stays so. -/
theorem Predicate.truth_mono {first second : Predicate → Bool} :
    (condition : Predicate) →
      (∀ leaf ∈ condition.leaves, first leaf = true → second leaf = true) →
      condition.truth first = true → condition.truth second = true
  | .group clauses, each, holds =>
    Clause.hold_mono_of_clauses (Clause.truths_mono clauses each) holds
  | .compare _ _ _, each, holds => each _ (List.mem_singleton_self _) holds
  | .oneOf _ _ _, each, holds => each _ (List.mem_singleton_self _) holds
  | .between _ _ _ _, each, holds => each _ (List.mem_singleton_self _) holds
  | .isNull _ _, each, holds => each _ (List.mem_singleton_self _) holds
  | .like _ _, each, holds => each _ (List.mem_singleton_self _) holds
  | .raw _ _, each, holds => each _ (List.mem_singleton_self _) holds

/-- `Predicate.truth_mono` for each of a list of clauses. -/
theorem Clause.truths_mono {first second : Predicate → Bool} :
    (clauses : List (Connective × Predicate)) →
      (∀ leaf ∈ Clause.leaves clauses, first leaf = true → second leaf = true) →
      ∀ clause ∈ clauses, clause.2.truth first = true → clause.2.truth second = true
  | [], _ => fun _ member => absurd member List.not_mem_nil
  | (_, condition) :: rest, each => fun clause member => by
    rcases List.mem_cons.mp member with rfl | member
    · exact Predicate.truth_mono condition fun leaf inside => each leaf (List.mem_append_left _ inside)
    · exact Clause.truths_mono rest (fun leaf inside => each leaf (List.mem_append_right _ inside))
        clause member

end

namespace Clause

/-- **Clauses stay true when their conditions become true.** -/
theorem hold_mono {first second : Predicate → Bool} {clauses : List Clause}
    (each : ∀ leaf ∈ leaves clauses, first leaf = true → second leaf = true)
    (holds : hold first clauses = true) : hold second clauses = true :=
  hold_mono_of_clauses (truths_mono clauses each) holds

/-- Readings that agree on the conditions of clauses agree on the clauses. -/
theorem hold_congr {first second : Predicate → Bool} {clauses : List Clause}
    (agree : ∀ leaf ∈ leaves clauses, first leaf = second leaf) :
    hold first clauses = hold second clauses := by
  refine Bool.eq_iff_iff.mpr ⟨hold_mono fun leaf member => ?_, hold_mono fun leaf member => ?_⟩
  · rw [agree leaf member]
    exact id
  · rw [agree leaf member]
    exact id

end Clause

end Polystore
