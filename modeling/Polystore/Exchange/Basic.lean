/-
**Reading what is exchanged as JSON.**

A `Decoder` reads a JSON value under a rule for texts that stand for others. It fails in two ways: the
value does not have the expected form, or it names something that does not exist, such as an operator.

Numbers up to 64 bits may be written as decimal texts; a member that is null is as good as none.
-/

import Polystore.Error
import Polystore.Json.Reader

namespace Polystore

/-- Why a JSON value could not be read. -/
inductive ExchangeError where
  | malformed (expected : String)
  | refused (error : DatabaseError)
  deriving DecidableEq, Repr

/-- A reading of JSON, given what texts stand for. -/
abbrev Decoder (α : Type) := ReaderT (String → String) (Except ExchangeError) α

namespace Decoder

variable {α : Type}

def malformed (expected : String) : Decoder α := throw (.malformed expected)

/-- The result of a check; its failure is a refusal. -/
def checked : Except DatabaseError α → Decoder α
  | .ok value => pure value
  | .error error => throw (.refused error)

/-- The value, if there is one. -/
def expect (expected : String) : Option α → Decoder α
  | some value => pure value
  | none => malformed expected

/-- The text that a text stands for. -/
def resolved (text : String) : Decoder String := do return (← read) text

def text : Json → Decoder String
  | .string content => pure content
  | _ => malformed "a text"

def flag : Json → Decoder Bool
  | .boolean value => pure value
  | _ => malformed "a flag"

def list : Json → Decoder (List Json)
  | .array items => pure items
  | _ => malformed "a list"

def integer : Json → Decoder Int
  | .integer number => pure number
  | .string content => pure (Json.signedDecimal content.toList)
  | _ => malformed "a whole number"

def natural (json : Json) : Decoder Nat := do return (← integer json).toNat

def listOf (decode : Json → Decoder α) (json : Json) : Decoder (List α) := do
  (← list json).mapM decode

def texts : Json → Decoder (List String) := listOf text

end Decoder

namespace Json

/-- The member under a key; the last one counts. -/
def member? (key : String) : Json → Option Json
  | .object members => (members.reverse.find? (·.1 == key)).map Prod.snd
  | _ => none

/-- The member under a key, unless it is null. -/
def field? (key : String) (json : Json) : Option Json :=
  (json.member? key).filter fun value =>
    match value with
    | .null => false
    | _ => true

end Json

namespace Decoder

variable {α : Type}

/-- A member that has to be there. -/
def field (decode : Json → Decoder α) (key : String) (json : Json) : Decoder α :=
  match json.field? key with
  | some value => decode value
  | none => malformed ("a member " ++ key)

/-- A member that may be missing. -/
def optional (decode : Json → Decoder α) (key : String) (json : Json) : Decoder (Option α) :=
  match json.field? key with
  | some value => do return some (← decode value)
  | none => pure none

/-- The items of a member; a missing one has none. -/
def items (decode : Json → Decoder α) (key : String) (json : Json) : Decoder (List α) := do
  return (← optional (listOf decode) key json).getD []

/-- A flag; a missing one is off. -/
def isOn (key : String) (json : Json) : Decoder Bool := do
  return (← optional flag key json).getD false

/-- A pair of items. -/
def pair (json : Json) : Decoder (Json × Json) :=
  match json with
  | .array [first, second] => pure (first, second)
  | _ => malformed "a pair"

end Decoder

namespace Json

/-- Texts as an array. -/
def ofTexts (texts : List String) : Json := .array (texts.map .string)

/-- A value that may be missing. -/
def ofOption {α : Type} (encode : α → Json) : Option α → Json
  | some value => encode value
  | none => .null

/-- A count: a number where every reader of JSON can hold it, else its digits. -/
def ofCount (count : Nat) : Json :=
  if count < 0x20000000000000 then .integer count else .string (toString count)

end Json

end Polystore
