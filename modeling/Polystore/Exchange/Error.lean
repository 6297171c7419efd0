/-
**Causes of failures as JSON: the name of the kind of cause and its text.**
-/

import Polystore.Exchange.Basic

namespace Polystore

/-- The name of the kind of a cause. -/
def DatabaseError.kindName : DatabaseError → String
  | missingTable => "MissingTable"
  | invalidIdentifier _ => "InvalidIdentifier"
  | invalidDocument _ => "InvalidDocument"
  | unknownConnection _ => "InvalidDatabaseConnection"
  | unknownDriver _ => "InvalidDatabaseDriver"
  | unsupported _ => "Unsupported"
  | serialization _ => "Serialization"
  | configuration _ => "Configuration"
  | initialization _ => "Initialization"
  | backend _ => "Backend"
  | panic _ => "panic"

/-- The cause of a kind with a reason; no program is asked to give up. -/
def DatabaseError.ofKind? (kind reason : String) : Option DatabaseError :=
  match kind with
  | "MissingTable" => some missingTable
  | "InvalidIdentifier" => some (invalidIdentifier reason)
  | "InvalidDocument" => some (invalidDocument reason)
  | "InvalidDatabaseConnection" => some (unknownConnection reason)
  | "InvalidDatabaseDriver" => some (unknownDriver reason)
  | "Unsupported" => some (unsupported reason)
  | "Serialization" => some (serialization reason)
  | "Configuration" => some (configuration reason)
  | "Initialization" => some (initialization reason)
  | "Backend" => some (backend reason)
  | _ => none

/-- A cause given by its kind and its reason. -/
def Decoder.databaseError (json : Json) : Decoder DatabaseError := do
  let (kind, reason) ← pair json
  expect "a cause" (DatabaseError.ofKind? (← text kind) (← text reason))

end Polystore
