/-
**Programs that only read.**

`Program.evaluate` answers every call of a program by a function. On a memory store a program that only
reads through one scope is evaluated by what the scope sees, and leaves everything as it was.

* `evaluate_bind`, `evaluate_orIfInvalidIdentifier`: programs made of programs;
* `run_of_reads`: the run of a program that only reads;
* `reads_get`, `reads_count`: the reads of connections.
-/

import Polystore.Connection
import Polystore.Proofs.Memory.Serializable
import Polystore.Proofs.Program.Calls

namespace Polystore

namespace Program

variable {interface : Interface} {α β : Type} {scope : Scope} {isRead : interface.Call → Prop}
  {answer : (request : interface.Call) → Except DatabaseError (interface.Reply request)}

/-- **What a program comes to** if a function answers its calls. No program here draws anything. -/
def evaluate (answer : (request : interface.Call) → Except DatabaseError (interface.Reply request)) :
    Program interface α → Except DatabaseError α
  | done value => .ok value
  | fail error => .error error
  | draw next => (next 0).evaluate answer
  | call _ request next => (next (answer request)).evaluate answer

@[simp] theorem evaluate_pure (value : α) :
    (pure value : Program interface α).evaluate answer = .ok value := rfl

@[simp] theorem evaluate_bind (program : Program interface α) (next : α → Program interface β) :
    (program >>= next).evaluate answer =
      program.evaluate answer >>= fun value => (next value).evaluate answer := by
  show (program.andThen next).evaluate answer = _
  induction program with
  | done value => rfl
  | fail error => rfl
  | draw continuation hypothesis => exact hypothesis 0
  | call scope request continuation hypothesis => exact hypothesis (answer request)

@[simp] theorem evaluate_ofExcept (result : Except DatabaseError α) :
    (ofExcept result : Program interface α).evaluate answer = result := by
  cases result <;> rfl

@[simp] theorem evaluate_ask (scope : Scope) (request : interface.Call) :
    (ask interface scope request).evaluate answer = answer request :=
  evaluate_ofExcept _

/-- A result with a value in the place of a failure about an identifier. -/
def readable (fallback : α) : Except DatabaseError α → Except DatabaseError α
  | .ok value => .ok value
  | .error error => if error.isInvalidIdentifier then .ok fallback else .error error

@[simp] theorem evaluate_orIfInvalidIdentifier (program : Program interface α) (fallback : α) :
    (program.orIfInvalidIdentifier fallback).evaluate answer =
      readable fallback (program.evaluate answer) := by
  induction program with
  | done value => rfl
  | fail error =>
    rw [orIfInvalidIdentifier, evaluate, readable]
    split <;> rfl
  | draw continuation hypothesis => exact hypothesis 0
  | call scope request continuation hypothesis => exact hypothesis (answer request)

/-- The run of a program with a value for unreadable identifiers. -/
theorem run_orIfInvalidIdentifier {σ : Type} {driver : Driver interface σ}
    (program : Program interface α) (fallback : α) (world : World σ) :
    (program.orIfInvalidIdentifier fallback).run driver world =
      match program.run driver world with
      | (.finished result, last) => (.finished (readable fallback result), last)
      | (.blocked, last) => (.blocked, last) := by
  induction program generalizing world with
  | done value => rfl
  | fail error =>
    show (if error.isInvalidIdentifier then done fallback else fail error).run driver world =
      (.finished (if error.isInvalidIdentifier then .ok fallback else .error error), world)
    split <;> rfl
  | draw continuation hypothesis => exact hypothesis _ _
  | call scope request continuation hypothesis =>
    rw [orIfInvalidIdentifier, run, run]
    cases driver.answer scope request world.state with
    | mk answer state =>
      cases answer with
      | given result => exact hypothesis _ _
      | waiting => rfl

/-- The value for unreadable identifiers goes through what is done with a result. -/
theorem readable_map (change : α → β) (fallback : α) (result : Except DatabaseError α) :
    readable (change fallback) (result.map change) = (readable fallback result).map change := by
  cases result with
  | ok value => rfl
  | error error =>
    show (if error.isInvalidIdentifier then _ else _) = Except.map change (if _ then _ else _)
    split <;> rfl

/-- Results that agree up to a view do so with a value in the place of a failure about an identifier. -/
theorem readable_map_congr {view : α → β} {first second : Except DatabaseError α} (fallback : α)
    (same : first.map view = second.map view) :
    (readable fallback first).map view = (readable fallback second).map view := by
  rw [← readable_map, ← readable_map, same]

/-- **Whether a program does nothing but make reading calls through one scope.** -/
def Reads (scope : Scope) (isRead : interface.Call → Prop) : Program interface α → Prop
  | done _ | fail _ => True
  | draw _ => False
  | call other request next => other = scope ∧ isRead request ∧ ∀ reply, (next reply).Reads scope isRead

theorem Reads.bind {program : Program interface α} {next : α → Program interface β}
    (first : program.Reads scope isRead) (rest : ∀ value, (next value).Reads scope isRead) :
    (program >>= next).Reads scope isRead := by
  show (program.andThen next).Reads scope isRead
  induction program with
  | done value => exact rest value
  | fail error => trivial
  | draw continuation hypothesis => exact first.elim
  | call scope request continuation hypothesis =>
    exact ⟨first.1, first.2.1, fun reply => hypothesis reply (first.2.2 reply)⟩

theorem reads_pure (value : α) : (pure value : Program interface α).Reads scope isRead := trivial

theorem reads_ofExcept (result : Except DatabaseError α) :
    (ofExcept result : Program interface α).Reads scope isRead := by
  cases result <;> trivial

theorem reads_ask {request : interface.Call} (permitted : isRead request) :
    (ask interface scope request).Reads scope isRead :=
  ⟨rfl, permitted, fun reply => reads_ofExcept reply⟩

theorem Reads.orIfInvalidIdentifier {program : Program interface α} (reads : program.Reads scope isRead)
    (fallback : α) : (program.orIfInvalidIdentifier fallback).Reads scope isRead := by
  induction program with
  | done value => trivial
  | fail error =>
    rw [Program.orIfInvalidIdentifier]
    split <;> trivial
  | draw next hypothesis => exact reads.elim
  | call scope request next hypothesis =>
    exact ⟨reads.1, reads.2.1, fun reply => hypothesis reply (reads.2.2 reply)⟩

/-- The calls of a program that only reads are reads. -/
theorem Reads.calls {allowed : interface.Call → Prop} {program : Program interface α}
    (reads : program.Reads scope isRead) (permits : ∀ request, isRead request → allowed request) :
    program.Calls allowed := by
  induction program with
  | done value => trivial
  | fail error => trivial
  | draw next hypothesis => exact reads.elim
  | call scope request next hypothesis =>
    exact ⟨permits request reads.2.1, fun reply => hypothesis reply (reads.2.2 reply)⟩

/-- **The run of a program that only reads** on a driver whose reads change nothing. -/
theorem Reads.run {σ : Type} {driver : Driver interface σ} {program : Program interface α}
    {world : World σ} (reads : program.Reads scope isRead)
    (stays : ∀ request, isRead request →
      driver.answer scope request world.state = (.given (answer request), world.state)) :
    program.run driver world = (.finished (program.evaluate answer), world) := by
  induction program with
  | done value => rfl
  | fail error => rfl
  | draw next hypothesis => exact reads.elim
  | call other request next hypothesis =>
    obtain ⟨rfl, permitted, rest⟩ := reads
    rw [Program.run, stays request permitted]
    exact hypothesis (answer request) (rest _)

end Program

open Memory Native

/-- Whether a call reads documents or counts them. -/
def Native.Call.IsRead : Call → Prop
  | .find _ _ | .count _ _ => True
  | _ => False

/-- What the collections answer. -/
def Memory.Store.reply (store : Store) (request : Native.interface.Call) :
    Except DatabaseError (Native.interface.Reply request) :=
  (store.answer request).1

/-- **A call about collections is answered out of the visible ones**, and leaves what they leave to the
scope that it came through. -/
theorem Memory.Server.exists_answer {server : Server} {scope : Scope} {store : Store} {call : Call}
    (visible : server.visible? scope = some store) (data : isData call = true) :
    ∃ next, server.answer scope call = (.given (store.answer call).1, next) ∧
      next.visible? scope = some (store.answer call).2 ∧
      ((store.answer call).2 = store → next = server) := by
  cases scope with
  | connection =>
    obtain ⟨published, transaction, begun⟩ := server
    cases transaction with
    | some _ => cases visible
    | none =>
      obtain rfl : published = store := Option.some.inj visible
      have other : call ≠ .begin := fun begins => by
        rw [begins] at data
        cases data
      refine ⟨_, answer_direct other, rfl, fun same => ?_⟩
      rw [same]
  | transaction number =>
    have holder : server.staged? number = some store := visible
    rw [eq_of_staged? holder]
    refine ⟨_, answer_staged data, staged?_self, fun same => ?_⟩
    rw [same]

section Reads

variable {α : Type} {scope : Scope} {store : Store} {world : World Server} {validator : Validator}

/-- A reading call is answered out of the visible collections and changes nothing. -/
theorem answer_read (visible : world.state.visible? scope = some store)
    {request : Native.interface.Call} (reading : Call.IsRead request) :
    Server.driver.answer scope request world.state = (.given (store.reply request), world.state) := by
  have kept : isData request = true ∧ (store.answer request).2 = store := by
    cases request with
    | find _ _ => exact ⟨rfl, rfl⟩
    | count _ _ => exact ⟨rfl, rfl⟩
    | _ => exact reading.elim
  obtain ⟨next, answered, _, unchanged⟩ := Server.exists_answer visible kept.1
  rw [unchanged kept.2] at answered
  exact answered

/-- **The run of a program that only reads**: what the visible collections answer it, and nothing
changes. -/
theorem run_of_reads (visible : world.state.visible? scope = some store)
    {program : Program Native.interface α} (reads : program.Reads scope Call.IsRead) :
    program.run Server.driver world = (.finished (program.evaluate store.reply), world) :=
  reads.run fun _ reading => answer_read visible reading

theorem reads_findRows (collection : String) (read : Native.Read) :
    (findRows scope collection read).Reads scope Call.IsRead :=
  (Program.reads_ask trivial).bind fun _ => Program.reads_pure _

theorem reads_lookupJoined (join : Join) (rows : List Document) :
    (lookupJoined scope join rows).Reads scope Call.IsRead := by
  unfold lookupJoined
  split
  · trivial
  · exact (Program.reads_ofExcept _).bind fun read => reads_findRows _ read

theorem reads_applyJoins (joins : List Join) (rows : List Document) :
    (applyJoins scope joins rows).Reads scope Call.IsRead := by
  induction joins generalizing rows with
  | nil => trivial
  | cons join rest hypothesis => exact (reads_lookupJoined join rows).bind fun joined => hypothesis _

theorem reads_selectRows (query : Query) : (selectRows scope query).Reads scope Call.IsRead :=
  (Program.reads_ofExcept _).bind fun _ => (Program.reads_ofExcept _).bind fun _ =>
    (reads_findRows _ _).bind fun _ => (reads_applyJoins _ _).bind fun _ => Program.reads_pure _

theorem reads_countRows (query : Query) : (countRows scope query).Reads scope Call.IsRead := by
  refine (Program.reads_ofExcept _).bind fun _ => ?_
  split
  · exact (reads_selectRows _).bind fun _ => Program.reads_pure _
  · exact (Program.reads_ofExcept _).bind fun _ => Program.reads_ask trivial

theorem reads_select (query : Query) : (engine.select scope query).Reads scope Call.IsRead :=
  (reads_selectRows query).orIfInvalidIdentifier []

theorem reads_resolve (relationship : Relationship) (row : Document) :
    (relationship.resolve engine scope row).Reads scope Call.IsRead := by
  have rows : (relationship.rows engine scope row).Reads scope Call.IsRead := by
    unfold Relationship.rows
    split
    · exact reads_select _
    · trivial
  unfold Relationship.resolve
  split
  · refine Program.Reads.bind (rows.bind fun _ => Program.reads_pure _) fun related => ?_
    split <;> exact Program.reads_pure _
  · exact rows.bind fun _ => Program.reads_pure _

theorem reads_loadAll (loads : List Load) (rows : List Document) :
    ((Connection.mk engine scope validator).loadAll loads rows).Reads scope Call.IsRead := by
  have each (row : Document) :
      ((Connection.mk engine scope validator).loadInto loads row).Reads scope Call.IsRead := by
    induction loads generalizing row with
    | nil => trivial
    | cons load rest hypothesis => exact (reads_resolve load.relationship row).bind fun _ => hypothesis _
  induction rows with
  | nil => trivial
  | cons row rest hypothesis =>
    exact (each row).bind fun _ => hypothesis.bind fun _ => Program.reads_pure _

theorem reads_get (query : Query) :
    ((Connection.mk engine scope validator).get query).Reads scope Call.IsRead := by
  refine (Program.reads_ofExcept _).bind fun _ => (reads_select query).bind fun rows => ?_
  split
  · exact Program.reads_pure _
  · exact reads_loadAll query.loads rows

theorem reads_count (query : Query) :
    ((Connection.mk engine scope validator).count query).Reads scope Call.IsRead :=
  (Program.reads_ofExcept _).bind fun _ => (reads_countRows query).orIfInvalidIdentifier 0

theorem reads_paginate (query : Query) (request : PageRequest) :
    ((Connection.mk engine scope validator).paginate query request).Reads scope Call.IsRead :=
  (reads_count query).bind fun _ => (reads_get _).bind fun _ => Program.reads_ofExcept _

end Reads

end Polystore
