/-
**Runs of programs, and reads on the shared store.**

* `run_bind_ok`: a series of two programs succeeds exactly if both do, the second one in the world that
  the first one leaves;
* `Driver.Replies.exists_run`: every program ends on a driver that makes no call wait;
* `Program.run_watched`: an alarm that is asked in front of every call changes nothing;
* `answer_find`: a read is answered out of the collections that its scope sees, and changes nothing.
-/

import Polystore.Memory.Server

namespace Polystore

/-- Whether a driver replies to every call and makes none wait. -/
def Driver.Replies {interface : Interface} {σ : Type} (driver : Driver interface σ) : Prop :=
  ∀ scope request state, ∃ result later, driver.answer scope request state = (.given result, later)

namespace Program

variable {interface : Interface} {σ α β : Type} {driver : Driver interface σ} {world last : World σ}

/-- **A series of two programs**: the second one runs where the first one ends. -/
theorem run_bind (program : Program interface α) (next : α → Program interface β) (world : World σ) :
    (program >>= next).run driver world =
      match program.run driver world with
      | (.finished (.ok value), middle) => (next value).run driver middle
      | (.finished (.error error), middle) => (.finished (.error error), middle)
      | (.blocked, middle) => (.blocked, middle) := by
  show (program.andThen next).run driver world = _
  induction program generalizing world with
  | done value => rfl
  | fail error => rfl
  | draw continuation hypothesis => exact hypothesis _ _
  | call scope request continuation hypothesis =>
    rw [andThen, run, run]
    cases driver.answer scope request world.state with
    | mk answer state =>
      cases answer with
      | given result => exact hypothesis _ _
      | waiting => rfl

/-- **A series succeeds exactly if both of its programs do.** -/
theorem run_bind_ok {program : Program interface α} {next : α → Program interface β} {result : β} :
    (program >>= next).run driver world = (.finished (.ok result), last) ↔
      ∃ value middle, program.run driver world = (.finished (.ok value), middle) ∧
        (next value).run driver middle = (.finished (.ok result), last) := by
  rw [run_bind]
  constructor
  · intro succeeds
    match ran : program.run driver world with
    | (.finished (.ok value), middle) =>
      rw [ran] at succeeds
      exact ⟨value, middle, rfl, succeeds⟩
    | (.finished (.error error), middle) =>
      rw [ran] at succeeds
      cases succeeds
    | (.blocked, middle) =>
      rw [ran] at succeeds
      cases succeeds
  · rintro ⟨value, middle, ran, succeeds⟩
    rw [ran]
    exact succeeds

/-- A series goes on where its first program succeeds. -/
theorem run_bind_of_ok {program : Program interface α} {middle : World σ} {value : α}
    (ran : program.run driver world = (.finished (.ok value), middle))
    (next : α → Program interface β) :
    (program >>= next).run driver world = (next value).run driver middle := by
  rw [run_bind, ran]

/-- A series fails where its first program does. -/
theorem run_bind_of_error {program : Program interface α} {middle : World σ} {error : DatabaseError}
    (ran : program.run driver world = (.finished (.error error), middle))
    (next : α → Program interface β) :
    (program >>= next).run driver world = (.finished (.error error), middle) := by
  rw [run_bind, ran]

/-- A series waits where its first program does. -/
theorem run_bind_of_blocked {program : Program interface α} {middle : World σ}
    (ran : program.run driver world = (.blocked, middle)) (next : α → Program interface β) :
    (program >>= next).run driver world = (.blocked, middle) := by
  rw [run_bind, ran]

/-- **A series that ends has failed in its first program, or both have ended.** -/
theorem cases_of_run_bind {program : Program interface α} {next : α → Program interface β}
    {result : Except DatabaseError β}
    (finished : (program >>= next).run driver world = (.finished result, last)) :
    (∃ error, program.run driver world = (.finished (.error error), last) ∧ result = .error error) ∨
      ∃ value middle, program.run driver world = (.finished (.ok value), middle) ∧
        (next value).run driver middle = (.finished result, last) := by
  rw [run_bind] at finished
  match ran : program.run driver world with
  | (.finished (.ok value), middle) =>
    rw [ran] at finished
    exact .inr ⟨value, middle, rfl, finished⟩
  | (.finished (.error error), middle) =>
    rw [ran] at finished
    cases finished
    exact .inl ⟨error, rfl, rfl⟩
  | (.blocked, middle) =>
    rw [ran] at finished
    cases finished

/-- A program whose failures are values. -/
theorem run_attempt (program : Program interface α) (world : World σ) :
    program.attempt.run driver world =
      match program.run driver world with
      | (.finished result, last) => (.finished (.ok result), last)
      | (.blocked, last) => (.blocked, last) := by
  induction program generalizing world with
  | done value => rfl
  | fail error => rfl
  | draw next hypothesis => exact hypothesis _ _
  | call scope request next hypothesis =>
    rw [attempt, run, run]
    cases driver.answer scope request world.state with
    | mk answer state =>
      cases answer with
      | given result => exact hypothesis result _
      | waiting => rfl

/-- A program whose failures are values ends with what it would have ended with. -/
theorem run_attempt_of_finished {program : Program interface α} {result : Except DatabaseError α}
    (finished : program.run driver world = (.finished result, last)) :
    program.attempt.run driver world = (.finished (.ok result), last) := by
  rw [run_attempt, finished]

/-- A series behind a program whose failures are values goes on with what that one ends with. -/
theorem exists_of_run_attempt_bind {program : Program interface α}
    {next : Except DatabaseError α → Program interface β} {result : Except DatabaseError β}
    (finished : (program.attempt >>= next).run driver world = (.finished result, last)) :
    ∃ own middle, program.run driver world = (.finished own, middle) ∧
      (next own).run driver middle = (.finished result, last) := by
  rw [run_bind, run_attempt] at finished
  match ran : program.run driver world with
  | (.finished own, middle) =>
    rw [ran] at finished
    exact ⟨own, middle, rfl, finished⟩
  | (.blocked, middle) =>
    rw [ran] at finished
    cases finished

/-- The run of a program whose result is changed. -/
theorem run_bind_pure {program : Program interface α} {result : Except DatabaseError α}
    (ran : program.run driver world = (.finished result, last)) (change : α → β) :
    (program >>= fun value => pure (change value)).run driver world =
      (.finished (result.map change), last) := by
  rw [run_bind, ran]
  cases result <;> rfl

/-- A call that is answered. -/
theorem run_ask_of_given {scope : Scope} {request : interface.Call} {state : σ}
    {result : Except DatabaseError (interface.Reply request)}
    (answered : driver.answer scope request world.state = (.given result, state)) :
    (ask interface scope request).run driver world = (.finished result, { world with state }) := by
  rw [ask, run, answered]
  cases result <;> rfl

/-- A call that waits. -/
theorem run_ask_of_waiting {scope : Scope} {request : interface.Call} {state : σ}
    (waits : driver.answer scope request world.state = (.waiting, state)) :
    (ask interface scope request).run driver world = (.blocked, { world with state }) := by
  rw [ask, run, waits]

theorem run_ofExcept_ok {result : Except DatabaseError α} {value : α} :
    (ofExcept result).run driver world = (.finished (.ok value), last) ↔
      result = .ok value ∧ last = world := by
  cases result with
  | error error =>
    constructor
    · intro failed
      cases failed
    · rintro ⟨failed, _⟩
      cases failed
  | ok given =>
    constructor
    · intro succeeds
      cases succeeds
      exact ⟨rfl, rfl⟩
    · rintro ⟨same, rfl⟩
      cases same
      rfl

/-- A program with a value for unreadable identifiers succeeds with its own value or with that one. -/
theorem run_orIfInvalidIdentifier_ok {program : Program interface α} {fallback value : α}
    (succeeds : (program.orIfInvalidIdentifier fallback).run driver world =
      (.finished (.ok value), last)) :
    program.run driver world = (.finished (.ok value), last) ∨ value = fallback := by
  induction program generalizing world with
  | done given =>
    cases succeeds
    exact .inl rfl
  | fail error =>
    unfold orIfInvalidIdentifier at succeeds
    cases unreadable : error.isInvalidIdentifier with
    | false =>
      rw [unreadable] at succeeds
      cases succeeds
    | true =>
      rw [unreadable] at succeeds
      cases succeeds
      exact .inr rfl
  | draw continuation hypothesis => exact hypothesis _ succeeds
  | call scope request continuation hypothesis =>
    rw [orIfInvalidIdentifier, run] at succeeds
    rw [run]
    cases answered : driver.answer scope request world.state with
    | mk answer state =>
      rw [answered] at succeeds
      cases answer with
      | given result => exact hypothesis _ succeeds
      | waiting => cases succeeds

/-- A program that succeeds needs no value for unreadable identifiers. -/
theorem run_orIfInvalidIdentifier_of_ok {program : Program interface α} {fallback value : α}
    (succeeds : program.run driver world = (.finished (.ok value), last)) :
    (program.orIfInvalidIdentifier fallback).run driver world = (.finished (.ok value), last) := by
  induction program generalizing world with
  | done given => exact succeeds
  | fail error => cases succeeds
  | draw continuation hypothesis => exact hypothesis _ succeeds
  | call scope request continuation hypothesis =>
    rw [run] at succeeds
    rw [orIfInvalidIdentifier, run]
    cases answered : driver.answer scope request world.state with
    | mk answer state =>
      rw [answered] at succeeds
      cases answer with
      | given result => exact hypothesis _ succeeds
      | waiting => cases succeeds

end Program

/-- **Every program ends on a driver that replies.** -/
theorem Driver.Replies.exists_run {interface : Interface} {σ α : Type} {driver : Driver interface σ}
    (replies : driver.Replies) (program : Program interface α) (world : World σ) :
    ∃ result last, program.run driver world = (.finished result, last) := by
  induction program generalizing world with
  | done value => exact ⟨_, _, rfl⟩
  | fail error => exact ⟨_, _, rfl⟩
  | draw next hypothesis => exact hypothesis _ _
  | call scope request next hypothesis =>
    obtain ⟨result, later, answered⟩ := replies scope request world.state
    rw [Program.run, answered]
    exact hypothesis result _

/-- **An alarm changes nothing** of what a program does. -/
theorem Program.run_watched {interface : Interface} {σ α : Type} {driver : Driver interface σ}
    (alarm : Scope → interface.Call → σ → Bool) (program : Program interface α) (world : World (Bool × σ)) :
    let plain := program.run driver ⟨world.identifiers, world.state.2⟩
    let watched := program.run (driver.watched alarm) world
    watched.1 = plain.1 ∧ watched.2.identifiers = plain.2.identifiers ∧ watched.2.state.2 = plain.2.state := by
  induction program generalizing world with
  | done value => exact ⟨rfl, rfl, rfl⟩
  | fail error => exact ⟨rfl, rfl, rfl⟩
  | draw next hypothesis => exact hypothesis _ _
  | call scope request next hypothesis =>
    cases answered : driver.answer scope request world.state.2 with
    | mk answer state =>
      have watched : (driver.watched alarm).answer scope request world.state =
          (answer, (world.state.1 || alarm scope request world.state.2, state)) := by
        simp only [Driver.watched, answered]
      simp only [run, answered, watched]
      cases answer with
      | given result => exact hypothesis result _
      | waiting => exact ⟨rfl, rfl, rfl⟩

namespace Memory.Server

/-- An open transaction is the one that holds the staged collections. -/
theorem transaction_of_staged? {server : Server} {number : Nat} {store : Store}
    (staged : server.staged? number = some store) :
    server.transaction = some ⟨number, store⟩ := by
  unfold staged? at staged
  cases holder : server.transaction with
  | none => simp [holder] at staged
  | some transaction =>
    obtain ⟨other, content⟩ := transaction
    rw [holder, Option.filter_some] at staged
    by_cases same : other = number
    · subst same
      rw [beq_self_eq_true, if_pos rfl] at staged
      obtain rfl : content = store := Option.some.inj staged
      rfl
    · rw [beq_eq_false_iff_ne.mpr same, if_neg Bool.false_ne_true] at staged
      cases staged

/-- **A read is answered out of the visible collections and changes nothing.** -/
theorem answer_find {server : Server} {scope : Scope} {store : Store}
    (visible : server.visible? scope = some store) (collection : String) (read : Native.Read) :
    server.answer scope (.find collection read) =
      (.given (found read (store.documents collection)), server) := by
  cases scope with
  | connection =>
    have free : server.transaction.isSome = false := by
      cases holder : server.transaction.isSome with
      | false => rfl
      | true => simp [visible?, holder] at visible
    have seen : server.published = store := by
      simpa [visible?, free] using visible
    rw [answer, free, if_neg Bool.false_ne_true, answerDirect, ← seen]
    · rfl
    · nofun
  | transaction number =>
    have staged : server.staged? number = some store := visible
    have holder := transaction_of_staged? staged
    have stays : server.answerStaged number store (.find collection read) =
        (found read (store.documents collection), server) := by
      show (found read (store.documents collection),
        { server with transaction := some ⟨number, store⟩ }) = _
      rw [← holder]
    simp only [answer, staged, stays]

end Memory.Server

/-- The run of a read whose documents are shown as rows. -/
theorem run_findRows {scope : Scope} {world : World Memory.Server} {store : Memory.Store}
    (visible : world.state.visible? scope = some store) (collection : String) (read : Native.Read) :
    (Native.findRows scope collection read).run Memory.Server.driver world =
      (.finished ((Memory.found read (store.documents collection)).map
        (·.map ObjectIdentifier.canonicalDocument)), world) := by
  have asked : (Program.ask Native.interface scope (Native.Call.find collection read)).run
      Memory.Server.driver world = (.finished (Memory.found read (store.documents collection)), world) :=
    Program.run_ask_of_given (Memory.Server.answer_find visible collection read)
  cases answered : Memory.found read (store.documents collection) with
  | error error =>
    rw [answered] at asked
    exact Program.run_bind_of_error asked _
  | ok documents =>
    rw [answered] at asked
    exact Program.run_bind_of_ok asked _

end Polystore
