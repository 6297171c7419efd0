/-
**Checks on the shape of documents before they are written.**

A `Validator` either fails with the cause or, when suppressed, answers `false`. Documents to be
inserted must carry no identifier, documents to be updated or deleted must carry one.
-/

import Polystore.Error
import Polystore.Value.Basic

namespace Polystore

/-- The mode of checks on documents. -/
structure Validator where
  suppressed : Bool
  deriving DecidableEq, Repr

namespace Validator

/-- Fails on the first check that is not met. -/
def raising : Validator := ⟨false⟩

/-- What a failed check comes to. -/
def refuse (validator : Validator) (reason : String) : Except DatabaseError Bool :=
  if validator.suppressed then .ok false else .error (.invalidDocument reason)

/-- The text about a document with or without an identifier, against what is wanted. -/
def identifierReason (index : Option Nat) (wanted : Bool) : String :=
  let subject :=
    match index with
    | some index => "Document at index " ++ toString index
    | none => "Document"
  subject ++ if wanted then " must contain an id" else " must not contain an id"

def notADocument (index : Nat) : String := "Document at index " ++ toString index ++ " is not a document"

/-- Checks that a value is one document. -/
def checkSingle (validator : Validator) : Value → Except DatabaseError Bool
  | .document _ => .ok true
  | other => validator.refuse ("expected a single document, got " ++ other.kindName)

/-- Whether a value is a document. -/
def isDocument : Value → Bool
  | .document _ => true
  | _ => false

/-- Checks that a value is an array of documents. -/
def checkMultiple (validator : Validator) : Value → Except DatabaseError Bool
  | .array items =>
    match items.findIdx? (!isDocument ·) with
    | some index => validator.refuse (notADocument index)
    | none => .ok true
  | other => validator.refuse ("expected an array of documents, got " ++ other.kindName)

/-- Checks that every document of an array has an identifier, or that none has. -/
def checkItems (validator : Validator) (wanted : Bool) (index : Nat) :
    List Value → Except DatabaseError Bool
  | [] => .ok true
  | .document fields :: rest =>
    if Document.hasId fields = wanted then validator.checkItems wanted (index + 1) rest
    else validator.refuse (identifierReason (some index) wanted)
  | _ :: _ => validator.refuse (notADocument index)

/-- Checks that a document, or every document of an array, has an identifier or has none. -/
def checkIdentifiers (validator : Validator) (wanted : Bool) : Value → Except DatabaseError Bool
  | .document fields =>
    if Document.hasId fields = wanted then .ok true
    else validator.refuse (identifierReason none wanted)
  | .array items => validator.checkItems wanted 0 items
  | other => validator.refuse ("expected a document or an array of documents, got " ++ other.kindName)

/-- Checks a list of documents for identifiers; the index is told only where there are several. -/
def requireIdentifiers (validator : Validator) (wanted : Bool) (documents : List Document) :
    Except DatabaseError Bool :=
  match documents.findIdx? (Document.hasId · != wanted) with
  | some index =>
    validator.refuse (identifierReason (if 1 < documents.length then some index else none) wanted)
  | none => .ok true

end Validator

end Polystore
