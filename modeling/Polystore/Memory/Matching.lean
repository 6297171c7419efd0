/-
**Which documents pass a filter.**

A filter is a document. Its fields are conditions on fields of the tested document, or one of `$and`,
`$or` and `$nor` with a list of filters. `Memory.passes` goes through the fields in order and stops at
the first one that does not hold, so a fault behind it is not seen.

A missing field is equal to null, and an array is equal to a value, or ordered with it, if one of its
items is.
-/

import Polystore.Memory.Comparison
import Polystore.Regex.Reader
import Polystore.Validation

namespace Polystore.Memory

/-- Whether a field is equal to what a filter asks for. -/
def equalsOperand (field : Option Value) (operand : Value) : Bool :=
  match field, operand with
  | none, operand => operand.isNullish
  | some (.array items), .array operands => Value.alikeItems items operands
  | some (.array items), operand => items.any (·.alike operand)
  | some value, operand => value.alike operand

/-- Whether a field stands in an accepted order with what a filter asks for. -/
def comparesWith (accepted : Ordering → Bool) (field : Option Value) (operand : Value) : Bool :=
  let holds (value : Value) : Bool := (value.order? operand).any accepted
  match field with
  | none => false
  | some (.array items) => items.any holds
  | some value => holds value

/-- The switches of a filter's regular expression. -/
def regexOptions (operators : Document) : String :=
  match Document.get? "$options" operators with
  | some (.string options) => options
  | _ => ""

/-- Whether a field is a text that a regular expression matches. Nothing but a text needs the
expression to be well formed. -/
def matchesRegex (field : Option Value) (pattern options : String) : Except DatabaseError Bool :=
  match field with
  | some (.string text) =>
    match Regex.ofText? (.ofLetters options) pattern with
    | some regex => .ok (regex.isMatch text)
    | none => .error (.backend ("invalid $regex '" ++ pattern ++ "'"))
  | _ => .ok false

/-- The items of the array that an operator wants. -/
def candidates (operator : String) : Value → Except DatabaseError (List Value)
  | .array items => .ok items
  | _ => .error (.unsupported ("'" ++ operator ++ "' expects an array"))

/-- Whether a condition consists of operators: its first key begins with a dollar sign. -/
def isOperators : Document → Bool
  | [] => false
  | (key, _) :: _ => Text.startsWith "$" key

/-- Whether an operator that looks at nothing but its operand holds for a field. -/
def operatorHolds (field : Option Value) (options operator : String) (operand : Value) :
    Except DatabaseError Bool :=
  match operator with
  | "$eq" => .ok (equalsOperand field operand)
  | "$ne" => .ok (!equalsOperand field operand)
  | "$gt" => .ok (comparesWith (· == .gt) field operand)
  | "$gte" => .ok (comparesWith (· != .lt) field operand)
  | "$lt" => .ok (comparesWith (· == .lt) field operand)
  | "$lte" => .ok (comparesWith (· != .gt) field operand)
  | "$in" => (candidates operator operand).map (·.any (equalsOperand field))
  | "$nin" => (candidates operator operand).map (!·.any (equalsOperand field))
  | "$exists" =>
    match operand with
    | .boolean wanted => .ok (field.isSome == wanted)
    | _ => .ok field.isSome
  | "$regex" =>
    match operand with
    | .string pattern => matchesRegex field pattern options
    | _ => .error (.unsupported "'$regex' expects a string pattern")
  | "$options" => .ok true
  | other => .error (.unsupported ("query operator '" ++ other ++ "'"))

mutual

/-- Whether an operator holds for a field. -/
def conditionHolds (field : Option Value) (options operator : String) :
    Value → Except DatabaseError Bool
  | .document inner =>
    if operator = "$not" then do
      return !(← operatorsHold field (regexOptions inner) inner)
    else operatorHolds field options operator (.document inner)
  | operand =>
    if operator = "$not" then .error (.unsupported "'$not' expects an operator document")
    else operatorHolds field options operator operand

/-- Whether all operators of a condition hold for a field. -/
def operatorsHold (field : Option Value) (options : String) :
    List (String × Value) → Except DatabaseError Bool
  | [] => .ok true
  | (operator, operand) :: rest => do
    if ← conditionHolds field options operator operand then operatorsHold field options rest
    else return false

end

/-- Whether a field meets a condition: operators, or a value to be equal to. -/
def fieldMeets (field : Option Value) : Value → Except DatabaseError Bool
  | .document operators =>
    if isOperators operators then operatorsHold field (regexOptions operators) operators
    else .ok (equalsOperand field (.document operators))
  | operand => .ok (equalsOperand field operand)

/-- How a filter joins a list of further filters. -/
inductive Junction where
  | all
  | any
  | none
  deriving DecidableEq, Repr

/-- The junction that a key of a filter names. -/
def Junction.ofKey? : String → Option Junction
  | "$and" => some all
  | "$or" => some any
  | "$nor" => some none
  | _ => Option.none

def notFilters (key : String) : DatabaseError :=
  .unsupported ("'" ++ key ++ "' expects an array of filters")

/-- Whether a document passes a condition on one of its fields. -/
def fieldPasses (document : Document) (key : String) (condition : Value) : Except DatabaseError Bool :=
  if Text.startsWith "$" key then .error (.unsupported ("top-level operator '" ++ key ++ "'"))
  else fieldMeets (Document.atPath? key document) condition

mutual

/-- Whether a document passes one entry of a filter. -/
def entryPasses (document : Document) (key : String) : Value → Except DatabaseError Bool
  | .array branches =>
    match Junction.ofKey? key with
    | some junction =>
      if branches.all Validator.isDocument then
        match junction with
        | .all => allPass document branches
        | .any => anyPasses document branches
        | .none => (anyPasses document branches).map (!·)
      else .error (notFilters key)
    | none => fieldPasses document key (.array branches)
  | condition =>
    match Junction.ofKey? key with
    | some _ => .error (notFilters key)
    | none => fieldPasses document key condition

/-- Whether a document passes every entry of a filter. -/
def passes (document : Document) : List (String × Value) → Except DatabaseError Bool
  | [] => .ok true
  | (key, condition) :: rest => do
    if ← entryPasses document key condition then passes document rest else return false

/-- Whether a document passes every filter of a list. -/
def allPass (document : Document) : List Value → Except DatabaseError Bool
  | .document filter :: rest => do
    if ← passes document filter then allPass document rest else return false
  | _ => .ok true

/-- Whether a document passes some filter of a list. -/
def anyPasses (document : Document) : List Value → Except DatabaseError Bool
  | .document filter :: rest => do
    if ← passes document filter then return true else anyPasses document rest
  | _ => .ok false

end

end Polystore.Memory
