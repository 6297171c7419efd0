/-
**What is noted of the calls of a run.**

`Program.record` lists the answered calls of a run by whatever is noted of each of them.

* `record_bind`: the calls of a series are those of its first program, and behind them, if that one
  succeeds, those of its second one;
* `record_attempt_bind`: a series behind a program whose failures are values goes on in any case.
-/

import Polystore.Proofs.Program.Run

namespace Polystore.Program

variable {interface : Interface} {σ α β ε : Type}

/-- What is noted of an answered call. -/
abbrev Noting (interface : Interface) (ε : Type) :=
  Scope → (request : interface.Call) → Except DatabaseError (interface.Reply request) → ε

variable {entry : Noting interface ε} {driver : Driver interface σ}

/-- **What is noted of the answered calls of a run**, in order. -/
def record (entry : Noting interface ε) (driver : Driver interface σ) :
    Program interface α → World σ → List ε
  | done _, _ | fail _, _ => []
  | draw next, world =>
    (next world.identifiers.next.1).record entry driver
      { world with identifiers := world.identifiers.next.2 }
  | call scope request next, world =>
    match driver.answer scope request world.state with
    | (.given result, state) =>
      entry scope request result :: (next result).record entry driver { world with state }
    | (.waiting, _) => []

/-- The calls of a series. -/
theorem record_bind (program : Program interface α) (next : α → Program interface β) (world : World σ) :
    (program >>= next).record entry driver world =
      program.record entry driver world ++
        match program.run driver world with
        | (.finished (.ok value), middle) => (next value).record entry driver middle
        | _ => [] := by
  show (program.andThen next).record entry driver world = _
  induction program generalizing world with
  | done value => rfl
  | fail error => rfl
  | draw continuation hypothesis => exact hypothesis _ _
  | call scope request continuation hypothesis =>
    rw [andThen, record, record, run]
    cases driver.answer scope request world.state with
    | mk answer state =>
      cases answer with
      | given result =>
        simp only
        rw [hypothesis, List.cons_append]
      | waiting => rfl

theorem record_bind_of_ok {program : Program interface α} {world middle : World σ} {value : α}
    (ran : program.run driver world = (.finished (.ok value), middle))
    (next : α → Program interface β) :
    (program >>= next).record entry driver world =
      program.record entry driver world ++ (next value).record entry driver middle := by
  rw [record_bind, ran]

theorem record_bind_of_error {program : Program interface α} {world middle : World σ}
    {error : DatabaseError} (ran : program.run driver world = (.finished (.error error), middle))
    (next : α → Program interface β) :
    (program >>= next).record entry driver world = program.record entry driver world := by
  rw [record_bind, ran]
  exact List.append_nil _

/-- A program whose failures are values makes the same calls. -/
theorem record_attempt (program : Program interface α) (world : World σ) :
    program.attempt.record entry driver world = program.record entry driver world := by
  induction program generalizing world with
  | done value => rfl
  | fail error => rfl
  | draw next hypothesis => exact hypothesis _ _
  | call scope request next hypothesis =>
    rw [attempt, record, record]
    cases driver.answer scope request world.state with
    | mk answer state =>
      cases answer with
      | given result => exact congrArg _ (hypothesis result _)
      | waiting => rfl

/-- A program with a value for unreadable identifiers makes the same calls. -/
theorem record_orIfInvalidIdentifier (program : Program interface α) (fallback : α) (world : World σ) :
    (program.orIfInvalidIdentifier fallback).record entry driver world =
      program.record entry driver world := by
  induction program generalizing world with
  | done value => rfl
  | fail error =>
    rw [orIfInvalidIdentifier]
    split <;> rfl
  | draw next hypothesis => exact hypothesis _ _
  | call scope request next hypothesis =>
    rw [orIfInvalidIdentifier, record, record]
    cases driver.answer scope request world.state with
    | mk answer state =>
      cases answer with
      | given result => exact congrArg _ (hypothesis result _)
      | waiting => rfl

/-- The calls of a series behind a program whose failures are values. -/
theorem record_attempt_bind {program : Program interface α} {world middle : World σ}
    {own : Except DatabaseError α} (ran : program.run driver world = (.finished own, middle))
    (next : Except DatabaseError α → Program interface β) :
    (program.attempt >>= next).record entry driver world =
      program.record entry driver world ++ (next own).record entry driver middle := by
  rw [record_bind_of_ok (run_attempt_of_finished ran), record_attempt]

/-- One call. -/
theorem record_ask {scope : Scope} {request : interface.Call} {world last : World σ}
    {answer : Except DatabaseError (interface.Reply request)}
    (finished : (ask interface scope request).run driver world = (.finished answer, last)) :
    (ask interface scope request).record entry driver world = [entry scope request answer] := by
  rw [ask, run] at finished
  rw [ask, record]
  cases answered : driver.answer scope request world.state with
  | mk reply state =>
    rw [answered] at finished
    cases reply with
    | waiting => cases finished
    | given result =>
      obtain rfl : result = answer := by
        cases result <;> cases finished <;> rfl
      cases result <;> rfl

end Polystore.Program
