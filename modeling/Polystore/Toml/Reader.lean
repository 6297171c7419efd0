/-
**Reading TOML documents.**

A document is a list of statements: headers, headers of repeated tables, and assignments. `readStatements`
cuts the text into them, `Toml.document?` carries them out one after the other. A key may be given one
value only, and a table in braces or under a header of its own is not added to from elsewhere.
-/

import Polystore.Toml.Quoted
import Polystore.Toml.Scalar

namespace Polystore.Toml

/-- Drops blanks. -/
def skipBlanks (text : List Char) : List Char :=
  text.dropWhile fun character => character == ' ' || character == '\t'

/-- What is left of a line behind a value: nothing but blanks and a comment. Gives the text of the next
line. -/
def endOfLine? (text : List Char) : Option (List Char) :=
  let text := skipBlanks text
  let text :=
    match text with
    | '#' :: comment => comment.dropWhile (!isControl ·)
    | rest => rest
  match text with
  | [] => some []
  | '\n' :: rest => some rest
  | '\r' :: '\n' :: rest => some rest
  | _ => none

/-- Drops blanks, line ends and comments; there are no more of them than `fuel`. -/
def skipLines : Nat → List Char → List Char
  | 0, text => text
  | fuel + 1, text =>
    match skipBlanks text with
    | [] => []
    | head :: rest =>
      if head == '#' || head == '\n' || head == '\r' then
        match endOfLine? (head :: rest) with
        | some next => skipLines fuel next
        | none => head :: rest
      else head :: rest

/-- Reads one key. -/
def key? (text : List Char) : Option (String × List Char) :=
  match text with
  | '"' :: rest => (basic? rest).map fun (key, rest) => (String.ofList key, rest)
  | '\'' :: rest => (literal? rest).map fun (key, rest) => (String.ofList key, rest)
  | _ =>
    let key := text.takeWhile isBareKey
    if key.isEmpty then none else some (String.ofList key, text.dropWhile isBareKey)

/-- Reads keys with dots between them: the first one and the others. -/
def keys? : Nat → List Char → Option (List String × List Char)
  | 0, _ => none
  | fuel + 1, text => do
    let (key, rest) ← key? (skipBlanks text)
    match skipBlanks rest with
    | '.' :: rest =>
      let (others, rest) ← keys? fuel rest
      some (key :: others, rest)
    | rest => some ([key], rest)

/-- Writes a value under a dotted key. -/
def assign? : List String → Toml → TomlTable → Option TomlTable
  | [], _, _ => none
  | [key], value, entries =>
    match TomlTable.get? key entries with
    | some _ => none
    | none => some (TomlTable.put key value entries)
  | key :: others, value, entries =>
    match TomlTable.get? key entries with
    | some (.table origin inner) =>
      if origin.canExtend then
        (assign? others value inner).map fun inner =>
          TomlTable.put key (.table origin inner) entries
      else none
    | some _ => none
    | none =>
      (assign? others value []).map fun inner => TomlTable.put key (.table .dotted inner) entries

/-- Whether a character belongs to a word that is no string. -/
def isWordPart (character : Char) : Bool :=
  character.isAlphanum || character == '+' || character == '-' || character == '.'
    || character == '_' || character == ':'

/-- Reads a word that is no string. A blank may stand between a date and a time. -/
def word? (text : List Char) : Option (Toml × List Char) :=
  let word := text.takeWhile isWordPart
  let rest := text.dropWhile isWordPart
  let longer :=
    match rest with
    | ' ' :: digit :: more =>
      if isDate word && digit.isDigit then
        some (word ++ ' ' :: (digit :: more).takeWhile isWordPart, (digit :: more).dropWhile isWordPart)
      else none
    | _ => none
  match longer with
  | some (word, rest) => (scalar? word).map fun value => (value, rest)
  | none => (scalar? word).map fun value => (value, rest)

mutual

/-- Reads a value. -/
def value? : Nat → List Char → Option (Toml × List Char)
  | 0, _ => none
  | fuel + 1, text =>
    match text with
    | '[' :: rest => (items? fuel rest).map fun (items, rest) => (.array items, rest)
    | '\x7b' :: rest =>
      match skipBlanks rest with
      | '\x7d' :: rest => some (.table .inline [], rest)
      | rest => (entries? fuel [] rest).map fun (entries, rest) => (.table .inline entries, rest)
    | '"' :: _ | '\'' :: _ => (string? text).map fun (content, rest) => (.string (String.ofList content), rest)
    | _ => word? text

/-- Reads the items of an array up to its closing bracket; a comma may follow the last one. -/
def items? : Nat → List Char → Option (List Toml × List Char)
  | 0, _ => none
  | fuel + 1, text =>
    match skipLines text.length text with
    | ']' :: rest => some ([], rest)
    | rest => do
      let (item, rest) ← value? fuel rest
      match skipLines rest.length rest with
      | ']' :: rest => some ([item], rest)
      | ',' :: rest =>
        let (others, rest) ← items? fuel rest
        some (item :: others, rest)
      | _ => none

/-- Reads the assignments of a table in braces up to the closing one. -/
def entries? : Nat → TomlTable → List Char → Option (TomlTable × List Char)
  | 0, _, _ => none
  | fuel + 1, entries, text => do
    let (keys, rest) ← keys? text.length text
    match rest with
    | '=' :: rest =>
      let (value, rest) ← value? fuel (skipBlanks rest)
      let entries ← assign? keys value entries
      match skipBlanks rest with
      | '\x7d' :: rest => some (entries, rest)
      | ',' :: rest => entries? fuel entries rest
      | _ => none
    | _ => none

end

/-- A line of a document. -/
inductive TomlStatement where
  | header (path : List String)
  | repeatedHeader (path : List String)
  | assignment (keys : List String) (value : Toml)

/-- Reads the statement that a text begins with, and the end of its line. -/
def statement? : List Char → Option (TomlStatement × List Char)
  | '[' :: '[' :: text => do
    let (path, rest) ← keys? text.length text
    match rest with
    | ']' :: ']' :: rest => (endOfLine? rest).map fun next => (.repeatedHeader path, next)
    | _ => none
  | '[' :: text => do
    let (path, rest) ← keys? text.length text
    match rest with
    | ']' :: rest => (endOfLine? rest).map fun next => (.header path, next)
    | _ => none
  | text => do
    let (keys, rest) ← keys? text.length text
    match rest with
    | '=' :: rest =>
      let (value, rest) ← value? (2 * rest.length + 2) (skipBlanks rest)
      (endOfLine? rest).map fun next => (.assignment keys value, next)
    | _ => none

/-- Cuts a text into statements, at most `fuel` of them. -/
def readStatements : Nat → List Char → Option (List TomlStatement)
  | 0, text => if text.isEmpty then some [] else none
  | fuel + 1, text =>
    match skipLines text.length text with
    | [] => some []
    | rest => do
      let (statement, next) ← statement? rest
      let others ← readStatements fuel next
      some (statement :: others)

/-- Changes the last of a list of tables. -/
def changeLast? (change : TomlTable → Option TomlTable) :
    List TomlTable → Option (List TomlTable)
  | [] => none
  | [last] => (change last).map fun last => [last]
  | first :: rest => (changeLast? change rest).map (first :: ·)

/-- Changes what stands under the last key of a path of headers; tables on the way come into being. -/
def changeAt? (change : Option Toml → Option Toml) : List String → TomlTable → Option TomlTable
  | [], _ => none
  | [key], entries =>
    (change (TomlTable.get? key entries)).map fun value => TomlTable.put key value entries
  | key :: others, entries =>
    match TomlTable.get? key entries with
    | some (.table origin inner) =>
      if origin.isOpen then
        (changeAt? change others inner).map fun inner =>
          TomlTable.put key (.table origin inner) entries
      else none
    | some (.tables items) =>
      (changeLast? (changeAt? change others) items).map fun items =>
        TomlTable.put key (.tables items) entries
    | some _ => none
    | none =>
      (changeAt? change others []).map fun inner => TomlTable.put key (.table .implicit inner) entries

/-- What a header makes of the value under its path. -/
def opened? : Option Toml → Option Toml
  | none => some (.table .header [])
  | some (.table origin inner) => if origin.canReopen then some (.table .header inner) else none
  | some _ => none

/-- What the header of repeated tables makes of the value under its path. -/
def repeated? : Option Toml → Option Toml
  | none => some (.tables [[]])
  | some (.tables items) => some (.tables (items ++ [[]]))
  | some _ => none

/-- What an assignment below a header makes of the value under the path of the header. -/
def assignedBelow? (keys : List String) (value : Toml) : Option Toml → Option Toml
  | some (.table origin inner) => (assign? keys value inner).map (.table origin)
  | some (.tables items) => (changeLast? (assign? keys value) items).map .tables
  | _ => none

/-- Carries out statements below the header with the path `current`. -/
def perform? : List TomlStatement → List String → TomlTable → Option TomlTable
  | [], _, entries => some entries
  | .header path :: rest, _, entries => do
    let entries ← changeAt? opened? path entries
    perform? rest path entries
  | .repeatedHeader path :: rest, _, entries => do
    let entries ← changeAt? repeated? path entries
    perform? rest path entries
  | .assignment keys value :: rest, current, entries => do
    let entries ←
      if current.isEmpty then assign? keys value entries
      else changeAt? (assignedBelow? keys value) current entries
    perform? rest current entries

/-- The table that a text writes, if it is a document. -/
def document? (text : String) : Option TomlTable :=
  let text :=
    match text.toList with
    | '\ufeff' :: rest => rest
    | rest => rest
  (readStatements text.length text).bind fun statements => perform? statements [] []

end Polystore.Toml
