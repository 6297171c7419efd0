/-
**What is done in a transaction, and in which calls it ends up.**

A `Callback` is what is done with the connection that a transaction hands out: a finite series of
operations, each of them chosen by what the ones before it gave, and of transactions inside the first
one. `Marking.entry` notes of each answered call what it means for transactions.

* `Orderly`: work on one scope, where every transaction that is begun inside is ended once, behind all
  the work in it;
* `Callback.orderly`: a callback does orderly work on its connection, whatever the driver replies;
* `transacted_of_keeps`: a transaction is begun, does the work of its callback and is ended once, as the callback
  ended, or is not begun.
-/

import Polystore.Proofs.Program.Record
import Polystore.Proofs.Program.Uniform

namespace Polystore

/-! ### Callbacks -/

/-- **What is done with the connection that a transaction hands out**. Operations and transactions
inside may be made with other checks than those of the connection, and give failures as values. -/
inductive Callback : Type → Type 1 where
  | done {α : Type} (result : Except DatabaseError α) : Callback α
  | ask {α : Type} (validator : Option Validator) (request : Request)
    (next : Except DatabaseError Reply → Callback α) : Callback α
  | transaction {α β : Type} (validator : Option Validator) (inner : Callback β)
    (next : Except DatabaseError β → Callback α) : Callback α

/-- A connection with the given checks, if any are given. -/
def Connection.checking {interface : Interface} (connection : Connection interface)
    (validator : Option Validator) : Connection interface :=
  { connection with validator := validator.getD connection.validator }

namespace Callback

/-- **What a callback does on a connection.** -/
def on {interface : Interface} : {α : Type} → Callback α → Connection interface → Program interface α
  | _, done result, _ => .ofExcept result
  | _, ask validator request next, connection => do
    let reply ← (request.run (connection.checking validator)).attempt
    (next reply).on connection
  | _, transaction validator inner next, connection => do
    let result ← ((connection.checking validator).transaction inner.on).attempt
    (next result).on connection

/-- Whether a callback opens no transactions of its own. -/
def IsFlat : {α : Type} → Callback α → Prop
  | _, done _ => True
  | _, ask _ _ next => ∀ reply, (next reply).IsFlat
  | _, transaction _ _ _ => False

/-- The callback whose own transactions fail without being begun. -/
def refused (error : DatabaseError) : {α : Type} → Callback α → Callback α
  | _, done result => done result
  | _, ask validator request next => ask validator request fun reply => (next reply).refused error
  | _, transaction _ _ next => (next (.error error)).refused error

/-- A flat callback has no transactions that could be refused. -/
theorem refused_of_isFlat {α : Type} {callback : Callback α} (flat : callback.IsFlat)
    (error : DatabaseError) : callback.refused error = callback := by
  induction callback with
  | done result => rfl
  | ask validator request next hypothesis =>
    exact congrArg (ask validator request) (funext fun reply => hypothesis reply (flat reply))
  | transaction validator inner next => exact flat.elim

end Callback

/-! ### What calls mean for transactions -/

/-- What an answered call means for transactions. -/
inductive Mark where
  | worked
  | began (answer : Except DatabaseError Nat)
  | committed (answer : Except DatabaseError Unit)
  | rolledBack (answer : Except DatabaseError Unit)

/-- Whether a call was one to end a transaction. -/
def Mark.IsEnding : Mark → Prop
  | .committed _ | .rolledBack _ => True
  | .worked | .began _ => False

/-- What the answered calls of an interface mean. -/
abbrev Marking (interface : Interface) :=
  (request : interface.Call) → Except DatabaseError (interface.Reply request) → Mark

/-- **What is noted of an answered call**: through what it was made, and what it means. -/
def Marking.entry {interface : Interface} (mark : Marking interface) (scope : Scope)
    (request : interface.Call) (answer : Except DatabaseError (interface.Reply request)) : Scope × Mark :=
  (scope, mark request answer)

namespace Program

variable {interface : Interface} {mark : Marking interface} {isWork : interface.Call → Bool}
  {σ α β : Type} {driver : Driver interface σ}

/-- Programs that do the same in every scope do nothing but work in theirs. -/
theorem Uniform.record_entry {program : Scope → Program interface α} (uniform : Uniform isWork program)
    (works : ∀ request result, isWork request = true → mark request result = .worked) (scope : Scope)
    (world : World σ) :
    ∀ entry ∈ (program scope).record mark.entry driver world, entry = (scope, .worked) := by
  induction uniform generalizing world with
  | done value => nofun
  | fail error => nofun
  | draw each hypothesis => exact hypothesis _ _
  | @call request next isWorking each hypothesis =>
    intro entry member
    rw [record] at member
    cases answered : driver.answer scope request world.state with
    | mk answer state =>
      rw [answered] at member
      cases answer with
      | waiting => cases member
      | given result =>
        rcases List.mem_cons.mp member with rfl | later
        · rw [Marking.entry, works request result isWorking]
        · exact hypothesis result _ entry later

end Program

/-! ### Orderly work -/

/-- **Work on one scope** that ends each transaction which it begins once, behind all the work in it and
before it goes on. -/
inductive Orderly : Scope → List (Scope × Mark) → Prop
  | nil (scope : Scope) : Orderly scope []
  | worked {scope : Scope} {later : List (Scope × Mark)} (rest : Orderly scope later) :
    Orderly scope ((scope, .worked) :: later)
  | refused {scope : Scope} {later : List (Scope × Mark)} (error : DatabaseError)
    (rest : Orderly scope later) : Orderly scope ((scope, .began (.error error)) :: later)
  | bracket {scope : Scope} {number : Nat} {inside later : List (Scope × Mark)} {ending : Mark}
    (inner : Orderly (.transaction number) inside) (ends : ending.IsEnding)
    (rest : Orderly scope later) :
    Orderly scope
      ((scope, .began (.ok number)) :: (inside ++ (.transaction number, ending) :: later))

namespace Orderly

variable {scope : Scope} {first second : List (Scope × Mark)}

theorem append (former : Orderly scope first) (latter : Orderly scope second) :
    Orderly scope (first ++ second) := by
  induction former with
  | nil scope => exact latter
  | worked _ hypothesis => exact .worked (hypothesis latter)
  | refused error _ hypothesis => exact .refused error (hypothesis latter)
  | bracket inner ends _ _ hypothesis =>
    rw [List.cons_append, List.append_assoc, List.cons_append]
    exact .bracket inner ends (hypothesis latter)

theorem ofWork (work : ∀ entry ∈ first, entry = (scope, Mark.worked)) : Orderly scope first := by
  induction first with
  | nil => exact .nil scope
  | cons entry rest hypothesis =>
    obtain rfl := work _ List.mem_cons_self
    exact .worked (hypothesis fun other inside => work other (List.mem_cons_of_mem _ inside))

end Orderly

/-- **How a transaction ends** whose work ended with a value or a failure: with which call, and with
which result of its own. -/
inductive Concludes {α : Type} : Except DatabaseError α → Mark → Except DatabaseError α → Prop
  | kept (value : α) : Concludes (.ok value) (.committed (.ok ())) (.ok value)
  | unkept (value : α) (error : DatabaseError) :
    Concludes (.ok value) (.committed (.error error)) (.error error)
  | discarded (error : DatabaseError) (answer : Except DatabaseError Unit) :
    Concludes (.error error) (.rolledBack answer) (.error error)

theorem Concludes.isEnding {α : Type} {answer result : Except DatabaseError α} {ending : Mark}
    (concludes : Concludes answer ending result) : ending.IsEnding := by
  cases concludes <;> trivial

/-- **What the calls of an engine mean**: its work is work, and it begins and ends transactions with one
call each. -/
structure Engine.Keeps {interface : Interface} (engine : Engine interface)
    (isWork : interface.Call → Bool) (mark : Marking interface) : Prop where
  uniform : engine.IsUniform isWork
  works : ∀ request result, isWork request = true → mark request result = .worked
  begin : ∀ {σ : Type} {driver : Driver interface σ} {world last : World σ} {scope : Scope}
    {answer : Except DatabaseError Nat},
    (engine.begin scope).run driver world = (.finished answer, last) →
      (engine.begin scope).record mark.entry driver world = [(scope, .began answer)]
  commit : ∀ {σ : Type} {driver : Driver interface σ} {world last : World σ} {number : Nat}
    {answer : Except DatabaseError Unit},
    (engine.commit number).run driver world = (.finished answer, last) →
      (engine.commit number).record mark.entry driver world = [(.transaction number, .committed answer)]
  rollback : ∀ {σ : Type} {driver : Driver interface σ} {world last : World σ} {number : Nat}
    {answer : Except DatabaseError Unit},
    (engine.rollback number).run driver world = (.finished answer, last) →
      (engine.rollback number).record mark.entry driver world = [(.transaction number, .rolledBack answer)]

/-! ### Transactions -/

section Transactions

variable {interface : Interface} {engine : Engine interface} {isWork : interface.Call → Bool}
  {mark : Marking interface} {σ α : Type} {driver : Driver interface σ} {world last : World σ}
  {validator : Validator} {scope : Scope} {number : Nat} {result answer : Except DatabaseError α}

/-- **The end of a transaction** is one call. -/
theorem concludes_finish (keeps : engine.Keeps isWork mark)
    (finished : ((Connection.mk engine scope validator).finish number answer).run driver world =
      (.finished result, last)) :
    ∃ ending, ((Connection.mk engine scope validator).finish number answer).record mark.entry driver world =
        [(.transaction number, ending)] ∧ Concludes answer ending result := by
  cases answer with
  | ok value =>
    rcases Program.cases_of_run_bind finished with ⟨error, failed, rfl⟩ | ⟨_, _, kept, rest⟩
    · refine ⟨_, ?_, .unkept value error⟩
      exact (Program.record_bind_of_error failed _).trans (keeps.commit failed)
    · cases rest
      refine ⟨_, ?_, .kept value⟩
      exact (Program.record_bind_of_ok kept _).trans (congrArg (· ++ []) (keeps.commit kept))
  | error error =>
    obtain ⟨given, _, ended, rest⟩ := Program.exists_of_run_attempt_bind finished
    cases rest
    refine ⟨_, ?_, .discarded error given⟩
    exact (Program.record_attempt_bind ended _).trans (congrArg (· ++ []) (keeps.rollback ended))

/-- **A transaction that ends** was not begun, or its work has ended and one call after it. -/
theorem cases_of_run_transaction (keeps : engine.Keeps isWork mark)
    {body : Connection interface → Program interface α}
    (finished : ((Connection.mk engine scope validator).transaction body).run driver world =
      (.finished result, last)) :
    (∃ error, (engine.begin scope).run driver world = (.finished (.error error), last) ∧
      result = .error error ∧
      ((Connection.mk engine scope validator).transaction body).record mark.entry driver world =
        [(scope, .began (.error error))]) ∨
    ∃ number opened answer closed ending,
      (engine.begin scope).run driver world = (.finished (.ok number), opened) ∧
      (body ⟨engine, .transaction number, validator⟩).run driver opened = (.finished answer, closed) ∧
      ((Connection.mk engine scope validator).finish number answer).run driver closed =
        (.finished result, last) ∧
      Concludes answer ending result ∧
      ((Connection.mk engine scope validator).transaction body).record mark.entry driver world =
        (scope, .began (.ok number)) ::
          ((body ⟨engine, .transaction number, validator⟩).record mark.entry driver opened ++
            [(.transaction number, ending)]) := by
  rcases Program.cases_of_run_bind finished with ⟨error, failed, rfl⟩ | ⟨number, opened, begun, rest⟩
  · refine .inl ⟨error, failed, rfl, ?_⟩
    exact (Program.record_bind_of_error failed _).trans (keeps.begin failed)
  · obtain ⟨answer, closed, worked, final⟩ := Program.exists_of_run_attempt_bind rest
    obtain ⟨ending, ends, concludes⟩ := concludes_finish keeps final
    refine .inr ⟨number, opened, answer, closed, ending, begun, worked, final, concludes, ?_⟩
    refine (Program.record_bind_of_ok begun _).trans ?_
    rw [Program.record_attempt_bind worked, ends]
    exact congrArg (· ++ _) (keeps.begin begun)

/-- **A callback does orderly work on its connection.** -/
theorem Callback.orderly (keeps : engine.Keeps isWork mark) (callback : Callback α)
    (finished : (callback.on ⟨engine, scope, validator⟩).run driver world = (.finished result, last)) :
    Orderly scope ((callback.on ⟨engine, scope, validator⟩).record mark.entry driver world) := by
  induction callback generalizing scope validator world last with
  | done given =>
    rw [on]
    cases given <;> exact .nil scope
  | ask checks request next hypothesis =>
    obtain ⟨reply, middle, ran, rest⟩ := Program.exists_of_run_attempt_bind finished
    rw [on, Program.record_attempt_bind ran]
    refine .append (.ofWork ?_) (hypothesis reply rest)
    exact (uniform_request keeps.uniform request).record_entry keeps.works scope world
  | transaction checks inner next first hypothesis =>
    obtain ⟨own, middle, ran, rest⟩ := Program.exists_of_run_attempt_bind finished
    rw [on, Program.record_attempt_bind ran]
    refine .append ?_ (hypothesis own rest)
    rcases cases_of_run_transaction keeps ran with
      ⟨error, _, _, marked⟩ | ⟨number, opened, answer, closed, ending, _, worked, _, concludes, marked⟩
    · exact marked ▸ .refused error (.nil scope)
    · exact marked ▸ .bracket (first worked) concludes.isEnding (.nil scope)

/-- A flat callback does nothing but work. -/
theorem Callback.worked_of_isFlat (keeps : engine.Keeps isWork mark) {callback : Callback α}
    (flat : callback.IsFlat) (world : World σ) :
    ∀ entry ∈ (callback.on ⟨engine, scope, validator⟩).record mark.entry driver world,
      entry = (scope, .worked) := by
  induction callback generalizing world with
  | done given =>
    rw [on]
    cases given <;> nofun
  | ask checks request next hypothesis =>
    rw [on, Program.record_bind, Program.record_attempt]
    intro entry member
    rcases List.mem_append.mp member with asked | later
    · exact (uniform_request keeps.uniform request).record_entry keeps.works scope world entry asked
    · match ran : (request.run ((Connection.mk engine scope validator).checking checks)).attempt.run
          driver world with
      | (.finished (.ok reply), middle) =>
        rw [ran] at later
        exact hypothesis reply (flat reply) middle entry later
      | (.finished (.error _), _) | (.blocked, _) =>
        rw [ran] at later
        cases later
  | transaction checks inner next => exact flat.elim

/-- **How a transaction goes that ends**, by its answered calls. Either it cannot be begun, and nothing is
called but that; or its callback does orderly work in it, and behind that it is ended by one call. -/
inductive Transacted (connection : Connection interface) (callback : Callback α) (mark : Marking interface)
    (driver : Driver interface σ) (world : World σ) :
    Except DatabaseError α → World σ → List (Scope × Mark) → Prop
  | refused {error : DatabaseError} {last : World σ}
    (begun : connection.begin.run driver world = (.finished (.error error), last)) :
    Transacted connection callback mark driver world (.error error) last
      [(connection.scope, .began (.error error))]
  | ended {number : Nat} {answer result : Except DatabaseError α} {opened closed last : World σ}
    {work : List (Scope × Mark)} {ending : Mark}
    (begun : connection.begin.run driver world = (.finished (.ok number), opened))
    (worked : (callback.on (connection.within number)).run driver opened = (.finished answer, closed))
    (marked : (callback.on (connection.within number)).record mark.entry driver opened = work)
    (orderly : Orderly (.transaction number) work)
    (flat : callback.IsFlat → ∀ entry ∈ work, entry = (.transaction number, .worked))
    (final : (connection.finish number answer).run driver closed = (.finished result, last))
    (concludes : Concludes answer ending result) :
    Transacted connection callback mark driver world result last
      ((connection.scope, .began (.ok number)) :: (work ++ [(.transaction number, ending)]))

/-- **Transactions go so on every driver**, whatever it replies. -/
theorem transacted_of_keeps (keeps : engine.Keeps isWork mark) {callback : Callback α}
    (finished : ((Connection.mk engine scope validator).transaction callback.on).run driver world =
      (.finished result, last)) :
    Transacted ⟨engine, scope, validator⟩ callback mark driver world result last
      (((Connection.mk engine scope validator).transaction callback.on).record mark.entry driver world) := by
  rcases cases_of_run_transaction keeps finished with
    ⟨error, begun, rfl, marked⟩ |
      ⟨number, opened, answer, closed, ending, begun, worked, final, concludes, marked⟩
  · exact marked ▸ .refused begun
  · exact marked ▸ .ended begun worked rfl (callback.orderly keeps worked)
      (fun flat => callback.worked_of_isFlat keeps flat opened) final concludes

end Transactions

end Polystore
