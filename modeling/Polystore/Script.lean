/-
**Drivers that answer from a script.**

Each call takes the next prepared reply, whatever it asks for; a call behind the last one gets a reply
that says nothing. What a reply does not say has a standard value: no rows, no names, one changed row
of an SQL statement, no touched documents. A transaction runs on the script of its connection.
-/

import Polystore.Native.Engine
import Polystore.Sql.Engine

namespace Polystore

/-- A prepared answer. -/
structure ScriptReply where
  failure : Option DatabaseError
  rows : List Document
  number : Option Nat
  names : List String
  deriving Repr

namespace ScriptReply

/-- The reply that says nothing. -/
def silent : ScriptReply := ⟨none, [], none, []⟩

/-- The failure of the reply, or what was asked for. -/
def result {α : Type} (reply : ScriptReply) (value : α) : Except DatabaseError α :=
  match reply.failure with
  | some error => .error error
  | none => .ok value

end ScriptReply

/-- The replies that are left, and how many transactions were begun. -/
structure Script where
  replies : List ScriptReply
  begun : Nat
  deriving Repr

namespace Script

/-- The script without replies. -/
def empty : Script := ⟨[], 0⟩

/-- The next reply and the script behind it. -/
def next (script : Script) : ScriptReply × Script :=
  match script.replies with
  | [] => (.silent, script)
  | reply :: rest => (reply, { script with replies := rest })

/-- Answers a call of an SQL driver. -/
def answerSql (script : Script) :
    (call : Sql.Call) → Except DatabaseError (Sql.interface.Reply call) × Script
  | .query _ => (script.next.1.result script.next.1.rows, script.next.2)
  | .execute _ => (script.next.1.result (script.next.1.number.getD 1), script.next.2)
  | .begin =>
    (script.next.1.result script.begun, { script.next.2 with begun := script.begun + 1 })
  | .commit => (script.next.1.result (), script.next.2)
  | .rollback => (script.next.1.result (), script.next.2)

/-- Answers a call of a document driver. The store that it stands for has no transactions. -/
def answerNative (script : Script) :
    (call : Native.Call) → Except DatabaseError (Native.interface.Reply call) × Script
  | .find _ _ => (script.next.1.result script.next.1.rows, script.next.2)
  | .count _ _ | .update _ _ _ | .delete _ _ =>
    (script.next.1.result (script.next.1.number.getD 0), script.next.2)
  | .insert _ _ | .createCollection _ | .dropCollection _ =>
    (script.next.1.result (), script.next.2)
  | .listCollections => (script.next.1.result script.next.1.names, script.next.2)
  | .begin => (.error (.unsupported "transactions on this document store"), script)
  | .commit | .rollback => (script.next.1.result (), script.next.2)

/-- The script as an SQL driver. -/
def sqlDriver : Driver Sql.interface Script where
  answer _ call script := (.given (script.answerSql call).1, (script.answerSql call).2)

/-- The script as a document driver. -/
def nativeDriver : Driver Native.interface Script where
  answer _ call script := (.given (script.answerNative call).1, (script.answerNative call).2)

end Script

end Polystore
