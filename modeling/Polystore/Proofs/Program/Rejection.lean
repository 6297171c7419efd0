/-
**Programs that make no call before they fail of themselves.**

A program fails either because a call did, or of itself. `Program.log` lists the answered calls of a run;
a program `RejectsFirst` if every run that fails of itself has answered none.

* `Careful.rejectsFirst`: a program that fails of itself only before its first call rejects first;
* `Careful.bind`, `careful_bind_of_silent`: careful programs made of programs;
* `not_rejectsFirst`: a program does not, if it fails although all its calls are granted.
-/

import Polystore.Proofs.Program.Calls
import Polystore.Proofs.Program.Record

namespace Polystore

/-- The driver that grants every call. -/
def Driver.granting {interface : Interface}
    (reply : (request : interface.Call) → interface.Reply request) : Driver interface Unit where
  answer _ request _ := (.given (.ok (reply request)), ())

namespace Program

variable {interface : Interface} {σ α β : Type} {driver : Driver interface σ}

/-- A call with its answer. -/
abbrev Answered (interface : Interface) :=
  (request : interface.Call) × Except DatabaseError (interface.Reply request)

/-- The answered calls of a run, in order. -/
def log (driver : Driver interface σ) : Program interface α → World σ → List (Answered interface)
  | done _, _ | fail _, _ => []
  | draw next, world =>
    (next world.identifiers.next.1).log driver { world with identifiers := world.identifiers.next.2 }
  | call scope request next, world =>
    match driver.answer scope request world.state with
    | (.given result, state) => ⟨request, result⟩ :: (next result).log driver { world with state }
    | (.waiting, _) => []

/-- **Whether a program that fails of itself has made no call.** Whenever it fails, its last call failed
so, or it made none and everything is as it was. -/
def RejectsFirst (program : Program interface α) : Prop :=
  ∀ {σ : Type} (driver : Driver interface σ) (world last : World σ) (error : DatabaseError),
    program.run driver world = (.finished (.error error), last) →
      (program.log driver world = [] ∧ last.state = world.state) ∨
        ∃ earlier request, program.log driver world = earlier ++ [⟨request, .error error⟩]

/-- Whether a program fails only where a call does, and as the call does. -/
def Relays : Program interface α → Prop
  | done _ => True
  | fail _ => False
  | draw next => ∀ bits, (next bits).Relays
  | call _ _ next => (∀ reply, (next (.ok reply)).Relays) ∧ ∀ error, next (.error error) = fail error

/-- **Whether a program fails of itself only before its first call.** -/
def Careful : Program interface α → Prop
  | done _ | fail _ => True
  | draw next => ∀ bits, (next bits).Careful
  | call _ _ next => (∀ reply, (next (.ok reply)).Relays) ∧ ∀ error, next (.error error) = fail error

/-! ### Runs of careful programs -/

/-- The last call of a run that fails. -/
theorem Relays.exists_log {program : Program interface α} (relays : program.Relays)
    {world last : World σ} {error : DatabaseError}
    (failed : program.run driver world = (.finished (.error error), last)) :
    ∃ earlier request, program.log driver world = earlier ++ [⟨request, .error error⟩] := by
  induction program generalizing world with
  | done value => cases failed
  | fail error => exact relays.elim
  | draw next hypothesis => exact hypothesis _ (relays _) failed
  | call scope request next hypothesis =>
    rw [run] at failed
    rw [log]
    cases answered : driver.answer scope request world.state with
    | mk answer state =>
      rw [answered] at failed
      cases answer with
      | waiting => cases failed
      | given result =>
        cases result with
        | ok reply =>
          obtain ⟨earlier, last, whole⟩ := hypothesis (.ok reply) (relays.1 reply) failed
          refine ⟨⟨request, .ok reply⟩ :: earlier, last, ?_⟩
          simp only
          rw [whole, List.cons_append]
        | error own =>
          simp only at failed ⊢
          rw [relays.2 own] at failed ⊢
          cases failed
          exact ⟨[], request, rfl⟩

/-- **Careful programs reject first.** -/
theorem Careful.rejectsFirst {program : Program interface α} (careful : program.Careful) :
    program.RejectsFirst := by
  intro σ driver world last error failed
  induction program generalizing world with
  | done value => cases failed
  | fail error =>
    cases failed
    exact .inl ⟨rfl, rfl⟩
  | draw next hypothesis => exact hypothesis _ (careful _) _ failed
  | call scope request next hypothesis =>
    have relays : (call scope request next).Relays := careful
    exact .inr (relays.exists_log failed)

/-! ### Programs made of programs -/

theorem Relays.bind {program : Program interface α} {next : α → Program interface β}
    (first : program.Relays) (rest : ∀ value, (next value).Relays) : (program >>= next).Relays := by
  show (program.andThen next).Relays
  induction program with
  | done value => exact rest value
  | fail error => exact first.elim
  | draw continuation hypothesis => exact fun bits => hypothesis bits (first bits)
  | call scope request continuation hypothesis =>
    refine ⟨fun reply => hypothesis (.ok reply) (first.1 reply), fun error => ?_⟩
    show (continuation (.error error)).andThen next = fail error
    rw [first.2 error]
    rfl

theorem Relays.careful {program : Program interface α} (relays : program.Relays) :
    program.Careful := by
  induction program with
  | done value => trivial
  | fail error => trivial
  | draw next hypothesis => exact fun bits => hypothesis bits (relays bits)
  | call scope request next hypothesis => exact relays

/-- What follows a careful program must not fail of itself. -/
theorem Careful.bind {program : Program interface α} {next : α → Program interface β}
    (first : program.Careful) (rest : ∀ value, (next value).Relays) : (program >>= next).Careful := by
  show (program.andThen next).Careful
  induction program with
  | done value => exact (rest value).careful
  | fail error => trivial
  | draw continuation hypothesis => exact fun bits => hypothesis bits (first bits)
  | call scope request continuation hypothesis =>
    have relays : (call scope request continuation).Relays := first
    exact relays.bind rest

/-- What follows a program without calls may. -/
theorem careful_bind_of_silent {program : Program interface α} {next : α → Program interface β}
    (silent : program.Calls fun _ => False) (rest : ∀ value, (next value).Careful) :
    (program >>= next).Careful := by
  show (program.andThen next).Careful
  induction program with
  | done value => exact rest value
  | fail error => trivial
  | draw continuation hypothesis => exact fun bits => hypothesis bits (silent bits)
  | call scope request continuation hypothesis => exact silent.1.elim

theorem relays_ask (scope : Scope) (request : interface.Call) :
    (ask interface scope request).Relays :=
  ⟨fun _ => trivial, fun _ => rfl⟩

theorem relays_pure (value : α) : (pure value : Program interface α).Relays := trivial

/-- A single call whose reply is changed. -/
theorem relays_reply (scope : Scope) (request : interface.Call) (change : interface.Reply request → α) :
    (ask interface scope request >>= fun reply => pure (change reply)).Relays :=
  (relays_ask scope request).bind fun reply => relays_pure (change reply)

theorem careful_ask (interface : Interface) (scope : Scope) (request : interface.Call)
    (change : interface.Reply request → α) :
    (ask interface scope request >>= fun reply => pure (change reply)).Careful :=
  (relays_reply scope request change).careful

/-! ### Programs that fail although all calls are granted -/

/-- The log notes every answered call with its answer. -/
theorem log_eq_record (program : Program interface α) (world : World σ) :
    program.log driver world = program.record (fun _ request answer => ⟨request, answer⟩) driver world := by
  induction program generalizing world with
  | done value => rfl
  | fail error => rfl
  | draw next hypothesis => exact hypothesis _ _
  | call scope request next hypothesis =>
    rw [log, record]
    cases driver.answer scope request world.state with
    | mk answer state =>
      cases answer with
      | given result => exact congrArg _ (hypothesis result _)
      | waiting => rfl

theorem log_bind (program : Program interface α) (next : α → Program interface β) (world : World σ) :
    (program >>= next).log driver world =
      program.log driver world ++
        match program.run driver world with
        | (.finished (.ok value), middle) => (next value).log driver middle
        | _ => [] := by
  rw [log_eq_record, record_bind, log_eq_record]
  rcases program.run driver world with ⟨(error | value) | _, middle⟩
  · rfl
  · exact congrArg _ (log_eq_record (next value) middle).symm
  · rfl

theorem exists_reply_of_mem_log {reply : (request : interface.Call) → interface.Reply request}
    {program : Program interface α} {world : World Unit} {entry : Answered interface}
    (member : entry ∈ program.log (.granting reply) world) : entry.2 = .ok (reply entry.1) := by
  induction program generalizing world with
  | done value => cases member
  | fail error => cases member
  | draw next hypothesis => exact hypothesis _ member
  | call scope request next hypothesis =>
    rcases List.mem_cons.mp member with rfl | later
    · rfl
    · exact hypothesis _ later

/-- **A program that fails behind granted calls does not reject first.** -/
theorem not_rejectsFirst {reply : (request : interface.Call) → interface.Reply request}
    {program : Program interface α} {world last : World Unit} {error : DatabaseError}
    (failed : program.run (.granting reply) world = (.finished (.error error), last))
    (called : program.log (.granting reply) world ≠ []) : ¬ program.RejectsFirst := by
  intro rejects
  rcases rejects _ world last error failed with ⟨none, _⟩ | ⟨earlier, request, whole⟩
  · exact called none
  · have last : (⟨request, .error error⟩ : Answered interface) ∈ program.log (.granting reply) world := by
      rw [whole]
      exact List.mem_append_right _ (List.mem_singleton_self _)
    cases exists_reply_of_mem_log last

end Program

end Polystore
