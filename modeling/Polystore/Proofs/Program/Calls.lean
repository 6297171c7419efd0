/-
**The calls that a program can make.**

`Program.Calls` says of every call of a program that it is allowed, whatever the calls before it were
answered.

* `Calls.bind`, `Calls.attempt`, `Calls.orIfInvalidIdentifier`: programs made of programs;
* `Calls.bind_of_yields`: programs whose calls depend on what the ones before them end with;
* `Calls.run`: what every allowed call keeps, a run keeps.
-/

import Polystore.Program

namespace Polystore.Program

variable {interface : Interface} {α β : Type} {allowed : interface.Call → Prop}

/-- **Whether a program makes no calls but allowed ones**, whatever it is answered. -/
def Calls (allowed : interface.Call → Prop) : Program interface α → Prop
  | done _ | fail _ => True
  | draw next => ∀ bits, (next bits).Calls allowed
  | call _ request next => allowed request ∧ ∀ reply, (next reply).Calls allowed

theorem Calls.bind {program : Program interface α} {next : α → Program interface β}
    (first : program.Calls allowed) (rest : ∀ value, (next value).Calls allowed) :
    (program >>= next).Calls allowed := by
  show (program.andThen next).Calls allowed
  induction program with
  | done value => exact rest value
  | fail error => trivial
  | draw continuation hypothesis => exact fun bits => hypothesis bits (first bits)
  | call scope request continuation hypothesis =>
    exact ⟨first.1, fun reply => hypothesis reply (first.2 reply)⟩

/-- **Whether every value that a program ends with satisfies a condition**, whatever it is answered. -/
def Yields (holds : α → Prop) : Program interface α → Prop
  | done value => holds value
  | fail _ => True
  | draw next => ∀ bits, (next bits).Yields holds
  | call _ _ next => ∀ reply, (next reply).Yields holds

section Yields

variable {holds : α → Prop} {after : β → Prop} {program : Program interface α}
  {next : α → Program interface β}

theorem Yields.bind (first : program.Yields holds)
    (rest : ∀ value, holds value → (next value).Yields after) : (program >>= next).Yields after := by
  show (program.andThen next).Yields after
  induction program with
  | done value => exact rest value first
  | fail error => trivial
  | draw continuation hypothesis => exact fun bits => hypothesis bits (first bits)
  | call scope request continuation hypothesis => exact fun reply => hypothesis reply (first reply)

theorem yields_ofExcept {result : Except DatabaseError α}
    (given : ∀ value, result = .ok value → holds value) :
    (ofExcept result : Program interface α).Yields holds := by
  cases result with
  | ok value => exact given value rfl
  | error error => trivial

/-- The calls after a program only have to be allowed behind the values that it ends with. -/
theorem Calls.bind_of_yields (first : program.Calls allowed) (yields : program.Yields holds)
    (rest : ∀ value, holds value → (next value).Calls allowed) :
    (program >>= next).Calls allowed := by
  show (program.andThen next).Calls allowed
  induction program with
  | done value => exact rest value yields
  | fail error => trivial
  | draw continuation hypothesis => exact fun bits => hypothesis bits (first bits) (yields bits)
  | call scope request continuation hypothesis =>
    exact ⟨first.1, fun reply => hypothesis reply (first.2 reply) (yields reply)⟩

end Yields

/-- Where every call is allowed, every program makes allowed ones. -/
theorem calls_of_forall (every : ∀ request, allowed request) (program : Program interface α) :
    program.Calls allowed := by
  induction program with
  | done value => trivial
  | fail error => trivial
  | draw next hypothesis => exact hypothesis
  | call scope request next hypothesis => exact ⟨every request, hypothesis⟩

theorem calls_pure (value : α) : (pure value : Program interface α).Calls allowed := trivial

theorem calls_ofExcept (result : Except DatabaseError α) :
    (ofExcept result : Program interface α).Calls allowed := by
  cases result <;> trivial

theorem calls_ask {scope : Scope} {request : interface.Call} (permitted : allowed request) :
    (ask interface scope request).Calls allowed :=
  ⟨permitted, fun reply => calls_ofExcept reply⟩

theorem calls_fresh : (fresh : Program interface Draw).Calls allowed := fun _ => trivial

theorem Calls.attempt {program : Program interface α} (calls : program.Calls allowed) :
    program.attempt.Calls allowed := by
  induction program with
  | done value => trivial
  | fail error => trivial
  | draw next hypothesis => exact fun bits => hypothesis bits (calls bits)
  | call scope request next hypothesis =>
    exact ⟨calls.1, fun reply => hypothesis reply (calls.2 reply)⟩

theorem Calls.orIfInvalidIdentifier {program : Program interface α} (calls : program.Calls allowed)
    (fallback : α) : (program.orIfInvalidIdentifier fallback).Calls allowed := by
  induction program with
  | done value => trivial
  | fail error =>
    rw [Program.orIfInvalidIdentifier]
    split <;> trivial
  | draw next hypothesis => exact fun bits => hypothesis bits (calls bits)
  | call scope request next hypothesis =>
    exact ⟨calls.1, fun reply => hypothesis reply (calls.2 reply)⟩

/-- **What every allowed call keeps, a run keeps.** -/
theorem Calls.run {σ : Type} {driver : Driver interface σ} {invariant : σ → Prop}
    {program : Program interface α} {world : World σ} (calls : program.Calls allowed)
    (step : ∀ scope request state, allowed request → invariant state →
      invariant (driver.answer scope request state).2)
    (holds : invariant world.state) : invariant (program.run driver world).2.state := by
  induction program generalizing world with
  | done value => exact holds
  | fail error => exact holds
  | draw next hypothesis => exact hypothesis _ (calls _) holds
  | call scope request next hypothesis =>
    have kept := step scope request world.state calls.1 holds
    rw [Program.run]
    cases answered : driver.answer scope request world.state with
    | mk answer state =>
      rw [answered] at kept
      cases answer with
      | given result => exact hypothesis result (calls.2 result) kept
      | waiting => exact kept

end Polystore.Program
