/-
**A store shared by connections and transactions.**

A transaction works on a copy of the collections, and committing publishes the copy. While one is open
every call outside of it waits. A transaction that was finished answers every call with the same
failure.
-/

import Polystore.Memory.Store

namespace Polystore.Memory

/-- A transaction that was neither committed nor discarded. -/
structure OpenTransaction where
  number : Nat
  staged : Store
  deriving Repr

/-- The shared state. -/
structure Server where
  published : Store
  transaction : Option OpenTransaction
  /-- How many transactions were begun. -/
  begun : Nat
  deriving Repr

namespace Server

/-- A server without collections. -/
def empty : Server := ⟨[], none, 0⟩

/-- The staged collections of a transaction, if it is open. -/
def staged? (number : Nat) (server : Server) : Option Store :=
  (server.transaction.filter (·.number == number)).map (·.staged)

/-- Ends a transaction without publishing anything; a finished one stays finished. -/
def discard (number : Nat) (server : Server) : Server :=
  { server with transaction := server.transaction.filter (·.number != number) }

/-- Answers a call on the connection while no transaction is open. -/
def answerDirect (server : Server) :
    (call : Native.Call) → Except DatabaseError (Native.interface.Reply call) × Server
  | .begin =>
    (.ok server.begun,
      { server with
        transaction := some ⟨server.begun, server.published⟩
        begun := server.begun + 1 })
  | call =>
    let (result, published) := server.published.answer call
    (result, { server with published })

/-- Answers a call on an open transaction. -/
def answerStaged (server : Server) (number : Nat) (staged : Store) :
    (call : Native.Call) → Except DatabaseError (Native.interface.Reply call) × Server
  | .commit => (.ok (), { server with published := staged, transaction := none })
  | .rollback => (.ok (), { server with transaction := none })
  | call =>
    let (result, staged) := staged.answer call
    (result, { server with transaction := some ⟨number, staged⟩ })

/-- Answers a call. -/
def answer (server : Server) :
    Scope → (call : Native.Call) → Answer (Native.interface.Reply call) × Server
  | .transaction _, .begin =>
    (.given (.error (.unsupported "nested transactions on the memory store")), server)
  | .transaction number, call =>
    match server.staged? number with
    | some staged =>
      let (result, server) := server.answerStaged number staged call
      (.given result, server)
    | none => (.given (.error Store.finishedTransaction), server)
  | .connection, call =>
    if server.transaction.isSome then (.waiting, server)
    else
      let (result, server) := server.answerDirect call
      (.given result, server)

/-- The collections that a scope sees, unless its calls wait or fail. -/
def visible? (server : Server) : Scope → Option Store
  | .connection => if server.transaction.isSome then none else some server.published
  | .transaction number => server.staged? number

/-- Whether a call has no answer: it reads documents whose sort gives up. -/
def givesUp (scope : Scope) (call : Native.Call) (server : Server) : Bool :=
  match call, server.visible? scope with
  | .find name read, some store => Memory.givesUp read (store.documents name)
  | _, _ => false

/-- The server as a document driver. -/
def driver : Driver Native.interface Server where
  answer scope call server := server.answer scope call

end Server

end Polystore.Memory
