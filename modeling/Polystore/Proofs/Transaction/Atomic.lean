/-
**Transactions are atomic.**

* `keeps_native`, `keeps_sql`: what the calls of both kinds of engines mean for transactions;
* `abreast_of_uniform`, `abreast_callback`: a callback does the same on the staged collections of a
  transaction as on the published ones, with its own transactions refused;
* `transaction_atomic`: a transaction on the shared store keeps all that its callback does, or nothing,
  and on every driver it is ended once.
-/

import Polystore.Proofs.Memory.Serializable
import Polystore.Proofs.Rows.Rejected
import Polystore.Proofs.Transaction.Callback

namespace Polystore

open Memory

/-! ### What the calls of engines mean -/

/-- What the answered calls of document drivers mean for transactions. -/
def Native.mark : Marking Native.interface
  | .begin, answer => .began answer
  | .commit, answer => .committed answer
  | .rollback, answer => .rolledBack answer
  | _, _ => .worked

/-- What the answered calls of SQL drivers mean for transactions. -/
def Sql.mark : Marking Sql.interface
  | .begin, answer => .began answer
  | .commit, answer => .committed answer
  | .rollback, answer => .rolledBack answer
  | _, _ => .worked

theorem keeps_native : Native.engine.Keeps isData Native.mark where
  uniform := isUniform_native
  works request result works := by
    cases request <;> first | rfl | exact absurd works Bool.false_ne_true
  begin := Program.record_ask
  commit := Program.record_ask
  rollback := Program.record_ask

theorem keeps_sql (dialect : SqlDialect) : (Sql.engine dialect).Keeps Sql.isStatement Sql.mark where
  uniform := isUniform_sql dialect
  works request result works := by
    cases request <;> first | rfl | exact absurd works Bool.false_ne_true
  begin := Program.record_ask
  commit := Program.record_ask
  rollback := Program.record_ask

/-! ### Staged and published collections -/

/-- The failure of a transaction that is begun in a transaction. -/
def Memory.nestedTransaction : DatabaseError := .unsupported "nested transactions on the memory store"

/-- **Whether two programs do the same**, one on the connection and one in an open transaction whose
staged collections are the published ones of the other. -/
def Abreast {α : Type} (number : Nat) (direct staged : Program Native.interface α) : Prop :=
  ∀ (identifiers : IdentifierSource) (published store : Store) (begun later : Nat),
    ∃ result last after,
      direct.run Server.driver ⟨identifiers, ⟨store, none, begun⟩⟩ =
          (.finished result, ⟨last, ⟨after, none, begun⟩⟩) ∧
        staged.run Server.driver ⟨identifiers, ⟨published, some ⟨number, store⟩, later⟩⟩ =
          (.finished result, ⟨last, ⟨published, some ⟨number, after⟩, later⟩⟩)

section Staging

variable {α β : Type} {number : Nat}

theorem Abreast.bind {direct staged : Program Native.interface α}
    {next other : α → Program Native.interface β} (first : Abreast number direct staged)
    (rest : ∀ value, Abreast number (next value) (other value)) :
    Abreast number (direct >>= next) (staged >>= other) := by
  intro identifiers published store begun later
  obtain ⟨result, last, after, ran, kept⟩ := first identifiers published store begun later
  cases result with
  | error error =>
    exact ⟨_, _, _, Program.run_bind_of_error ran next, Program.run_bind_of_error kept other⟩
  | ok value =>
    obtain ⟨final, drawn, left, behind, beside⟩ := rest value last published after begun later
    exact ⟨final, drawn, left, (Program.run_bind_of_ok ran next).trans behind,
      (Program.run_bind_of_ok kept other).trans beside⟩

theorem Abreast.attempt {direct staged : Program Native.interface α}
    (abreast : Abreast number direct staged) : Abreast number direct.attempt staged.attempt := by
  intro identifiers published store begun later
  obtain ⟨result, last, after, ran, kept⟩ := abreast identifiers published store begun later
  exact ⟨_, _, _, Program.run_attempt_of_finished ran, Program.run_attempt_of_finished kept⟩

/-- A call about collections is answered alike out of equal collections. -/
theorem abreast_of_uniform {program : Scope → Program Native.interface α}
    (uniform : Program.Uniform isData program) :
    Abreast number (program .connection) (program (.transaction number)) := by
  intro identifiers published store begun later
  induction uniform generalizing identifiers store with
  | done value => exact ⟨.ok value, identifiers, store, rfl, rfl⟩
  | fail error => exact ⟨.error error, identifiers, store, rfl, rfl⟩
  | draw each hypothesis => exact hypothesis _ _ store
  | @call request next data each hypothesis =>
    have direct : request ≠ .begin := by
      rintro rfl
      exact Bool.false_ne_true data
    simp only [Program.run, Server.driver, answer_direct direct, answer_staged data]
    exact hypothesis _ identifiers _

/-- **A callback does the same in a transaction** as on the connection, with its own transactions
refused. -/
theorem abreast_callback (validator : Validator) (callback : Callback α) :
    Abreast number ((callback.refused nestedTransaction).on (Native.connected .connection validator))
      (callback.on (Native.connected (.transaction number) validator)) := by
  induction callback with
  | done result =>
    rw [Callback.refused, Callback.on, Callback.on]
    exact abreast_of_uniform (.ofExcept result)
  | ask checks request next hypothesis =>
    refine Abreast.bind (Abreast.attempt ?_) hypothesis
    exact abreast_of_uniform (uniform_request isUniform_native request)
  | transaction checks inner next _ hypothesis =>
    intro identifiers published store begun later
    exact hypothesis (.error nestedTransaction) identifiers published store begun later

end Staging

/-! ### All or nothing -/

/-- **What a transaction on the shared store comes to**: its callback ends in it as it would have ended on
the connection, and so does the transaction. What the callback leaves is kept if that was a value; if it
was a failure, the collections are those from before. -/
structure Memory.Atomic {α : Type} (validator : Validator) (callback : Callback α)
    (identifiers : IdentifierSource) (store : Store) (begun : Nat) (result : Except DatabaseError α)
    (last : IdentifierSource) (after : Store) : Prop where
  inside : (callback.on (Native.connected (.transaction begun) validator)).run Server.driver
      ⟨identifiers, ⟨store, some ⟨begun, store⟩, begun + 1⟩⟩ =
    (.finished result, ⟨last, ⟨store, some ⟨begun, after⟩, begun + 1⟩⟩)
  direct : ((callback.refused nestedTransaction).on (Native.connected .connection validator)).run
      Server.driver ⟨identifiers, ⟨store, none, begun⟩⟩ =
    (.finished result, ⟨last, ⟨after, none, begun⟩⟩)
  whole : ((Native.connected .connection validator).transaction callback.on).run Server.driver
      ⟨identifiers, ⟨store, none, begun⟩⟩ =
    (.finished result, ⟨last, ⟨if result.isOk then after else store, none, begun + 1⟩⟩)

section Atomicity

variable {α : Type} {validator : Validator} {begun : Nat} {store after : Store}
  {identifiers : IdentifierSource}

/-- The end of the open transaction. -/
theorem run_finish (answer : Except DatabaseError α) :
    ((Native.connected .connection validator).finish begun answer).run Server.driver
        ⟨identifiers, ⟨store, some ⟨begun, after⟩, begun + 1⟩⟩ =
      (.finished answer, ⟨identifiers, ⟨if answer.isOk then after else store, none, begun + 1⟩⟩) := by
  cases answer with
  | ok value => exact Program.run_bind_of_ok (Program.run_ask_of_given answer_commit) _
  | error error =>
    have ended : (Native.engine.rollback begun).run Server.driver
        ⟨identifiers, ⟨store, some ⟨begun, after⟩, begun + 1⟩⟩ =
          (.finished (.ok ()), ⟨identifiers, ⟨store, none, begun + 1⟩⟩) :=
      Program.run_ask_of_given answer_rollback
    exact Program.run_bind_of_ok (Program.run_attempt_of_finished ended) _

theorem exists_atomic (validator : Validator) (callback : Callback α) (identifiers : IdentifierSource)
    (store : Store) (begun : Nat) :
    ∃ result last after, Atomic validator callback identifiers store begun result last after := by
  obtain ⟨result, last, after, direct, inside⟩ :=
    abreast_callback validator callback identifiers store store begun (begun + 1)
  refine ⟨result, last, after, inside, direct, ?_⟩
  have opened : ((Native.connected .connection validator).begin).run Server.driver
      ⟨identifiers, ⟨store, none, begun⟩⟩ =
        (.finished (.ok begun), ⟨identifiers, ⟨store, some ⟨begun, store⟩, begun + 1⟩⟩) := rfl
  exact (Program.run_bind_of_ok opened _).trans
    ((Program.run_bind_of_ok (Program.run_attempt_of_finished inside) _).trans (run_finish result))

end Atomicity

/-- **Whether the transactions of a connection are ended once**, whatever their callbacks do and whatever
the driver replies. They end themselves where it replies at all. -/
def Connection.Conducts {interface : Interface} (connection : Connection interface)
    (mark : Marking interface) : Prop :=
  ∀ {σ α : Type} (callback : Callback α) (driver : Driver interface σ) (world : World σ),
    (driver.Replies → ∃ result last,
      (connection.transaction callback.on).run driver world = (.finished result, last)) ∧
    ∀ result last, (connection.transaction callback.on).run driver world = (.finished result, last) →
      Transacted connection callback mark driver world result last
        ((connection.transaction callback.on).record mark.entry driver world)

/-- **Transactions are atomic.** On the shared store a transaction does what its callback would do on the
connection, the transactions of the callback refused, and keeps all of it or, where the callback fails,
nothing; a callback that begins none is not changed by that. On every driver of both kinds of stores a
transaction that was begun is ended once, behind all that its callback does. -/
theorem transaction_atomic (validator : Validator) :
    (∀ {α : Type} (callback : Callback α) (identifiers : IdentifierSource) (store : Store) (begun : Nat),
      ∃ result last after, Atomic validator callback identifiers store begun result last after) ∧
    (∀ {α : Type} (callback : Callback α), callback.IsFlat →
      callback.refused nestedTransaction = callback) ∧
    (∀ scope, (Native.connected scope validator).Conducts Native.mark) ∧
    ∀ dialect scope, (Sql.connected dialect scope validator).Conducts Sql.mark :=
  ⟨exists_atomic validator, fun _ flat => Callback.refused_of_isFlat flat nestedTransaction,
    fun _ _ _ _ _ _ => ⟨fun replies => replies.exists_run _ _,
      fun _ _ finished => transacted_of_keeps keeps_native finished⟩,
    fun dialect _ _ _ _ _ _ => ⟨fun replies => replies.exists_run _ _,
      fun _ _ finished => transacted_of_keeps (keeps_sql dialect) finished⟩⟩

/-- An insertion, and an update by a document that has no identifier. -/
def Callback.forgetful : Callback Reply :=
  .ask none (.insertOne (Query.ofTable "people") [("name", .string "Dee")]) fun _ =>
    .ask none (.updateMany (Query.ofTable "people") [[("name", .string "Dee")]]) .done

/-- The update is refused, and the insertion is gone with it. -/
theorem transaction_atomic_forgetful :
    Callback.forgetful.IsFlat ∧ Callback.forgetful.refused nestedTransaction = Callback.forgetful ∧
      (∃ result last after, Atomic .raising .forgetful ⟨0, 0⟩ [] 0 result last after) ∧
      ((Native.connected .connection .raising).transaction Callback.forgetful.on).run Server.driver
          ⟨⟨0, 0⟩, Server.empty⟩ =
        (.finished (.error (.invalidDocument "Document must contain an id")),
          ⟨⟨0, 1⟩, ⟨[], none, 1⟩⟩) ∧
      Transacted (Native.connected .connection .raising) .forgetful Native.mark Server.driver
        ⟨⟨0, 0⟩, Server.empty⟩ (.error (.invalidDocument "Document must contain an id"))
        ⟨⟨0, 1⟩, ⟨[], none, 1⟩⟩
        [(.connection, .began (.ok 0)), (.transaction 0, .worked), (.transaction 0, .rolledBack (.ok ()))] := by
  obtain ⟨atomic, refused, native, _⟩ := transaction_atomic .raising
  have flat : Callback.forgetful.IsFlat := fun _ _ => trivial
  have ran : ((Native.connected .connection .raising).transaction Callback.forgetful.on).run
      Server.driver ⟨⟨0, 0⟩, Server.empty⟩ =
        (.finished (.error (.invalidDocument "Document must contain an id")),
          ⟨⟨0, 1⟩, ⟨[], none, 1⟩⟩) := rfl
  exact ⟨flat, refused _ flat, atomic _ _ _ _, ran, (native _ _ _ _).2 _ _ ran⟩

/-- A transaction around another one that inserts. -/
def Callback.nesting : Callback Unit :=
  .transaction none
    (.ask none (.insertOne (Query.ofTable "people") [("name", .string "Ann")]) .done)
    fun _ => .done (.ok ())

/-- **A transaction inside another one is lost** where it would have been kept on the connection. -/
theorem nesting_lost :
    (∃ last, ((Native.connected .connection .raising).transaction Callback.nesting.on).run Server.driver
      ⟨⟨0, 0⟩, Server.empty⟩ = (.finished (.ok ()), last) ∧ last.state.published = []) ∧
    ∃ last, (Callback.nesting.on (Native.connected .connection .raising)).run Server.driver
      ⟨⟨0, 0⟩, Server.empty⟩ = (.finished (.ok ()), last) ∧
        last.state.published = [("people", [[("_id", .objectId ⟨0⟩), ("name", .string "Ann")]])] :=
  ⟨⟨_, rfl, rfl⟩, ⟨_, rfl, rfl⟩⟩

end Polystore
