/-
**The tokens of written regular expressions.**

`RegexToken.scan` cuts a written expression into tokens, each of which takes at least one character; it
gives none where a character set, an escape, a count or the beginning of a group is malformed.
-/

import Polystore.Regex.Basic
import Polystore.Text.Hex

namespace Polystore

/-- Switches that a group can set. -/
inductive RegexFlag where
  | ignoreCase
  | multiLine
  | dotAll
  /-- Switches that change nothing about whether a text matches. -/
  | neutral
  deriving DecidableEq, Repr

/-- A piece of a written expression. -/
inductive RegexToken where
  | oneOf (set : CharSet)
  | dot
  | caret
  | dollar
  | anchor (condition : Anchor)
  | count (least : Nat) (most : Option Nat)
  | bar
  | openGroup (flags : List (RegexFlag × Bool))
  | setFlags (flags : List (RegexFlag × Bool))
  | closeGroup
  deriving DecidableEq, Repr

namespace RegexToken

/-- Reads a decimal number with blanks around it. -/
def decimal? (text : List Char) : Option (Nat × List Char) :=
  let text := text.dropWhile Text.isBlank
  let digits := text.takeWhile Char.isDigit
  let number := digits.foldl (fun read digit => 10 * read + (digit.toNat - 48)) 0
  if digits.isEmpty || 0x100000000 ≤ number then none
  else some (number, (text.dropWhile Char.isDigit).dropWhile Text.isBlank)

/-- Leaves out the mark of a repetition that prefers few rounds. -/
def dropLazy : List Char → List Char
  | '?' :: rest => rest
  | rest => rest

/-- Reads a count of rounds behind its opening brace. -/
def count? (text : List Char) : Option (RegexToken × List Char) := do
  let (least, rest) ← decimal? text
  match rest with
  | '\x7d' :: rest => some (count least (some least), dropLazy rest)
  | ',' :: '\x7d' :: rest => some (count least none, dropLazy rest)
  | ',' :: rest =>
    let (most, rest) ← decimal? rest
    match rest with
    | '\x7d' :: rest => if least ≤ most then some (count least (some most), dropLazy rest) else none
    | _ => none
  | _ => none

/-- What an escape stands for. -/
inductive Escape where
  | literal (character : Char)
  | set (set : CharSet)
  | anchor (condition : Anchor)

/-- The character with a code point, if there is one. -/
def ofCode? (code : Nat) : Option Char := if code.isValidChar then some (Char.ofNat code) else none

/-- Reads a character by its code point, in braces or with a fixed number of digits. -/
def hexEscape? (width : Nat) : List Char → Option (Char × List Char)
  | '\x7b' :: text => do
    let digits := text.takeWhile (· != '\x7d')
    let rest := text.dropWhile (· != '\x7d')
    if digits.isEmpty || rest.isEmpty then none
    else
      let character ← (Hex.number? digits).bind ofCode?
      some (character, rest.drop 1)
  | text =>
    if text.length < width then none
    else do
      let character ← (Hex.number? (text.take width)).bind ofCode?
      some (character, text.drop width)

/-- Reads an escape behind its backslash. Punctuation stands for itself. -/
def escape? : List Char → Option (Escape × List Char)
  | [] => none
  | 'd' :: rest => some (.set .digit, rest)
  | 'D' :: rest => some (.set (.complement .digit), rest)
  | 's' :: rest => some (.set .space, rest)
  | 'S' :: rest => some (.set (.complement .space), rest)
  | 'w' :: rest => some (.set .word, rest)
  | 'W' :: rest => some (.set (.complement .word), rest)
  | 'b' :: rest => some (.anchor .wordBoundary, rest)
  | 'B' :: rest => some (.anchor .noWordBoundary, rest)
  | '<' :: rest => some (.anchor .wordStart, rest)
  | '>' :: rest => some (.anchor .wordEnd, rest)
  | 'A' :: rest => some (.anchor .textStart, rest)
  | 'z' :: rest => some (.anchor .textEnd, rest)
  | 'a' :: rest => some (.literal '\x07', rest)
  | 'f' :: rest => some (.literal '\x0c', rest)
  | 't' :: rest => some (.literal '\t', rest)
  | 'n' :: rest => some (.literal '\n', rest)
  | 'r' :: rest => some (.literal '\r', rest)
  | 'v' :: rest => some (.literal '\x0b', rest)
  | 'x' :: rest => (hexEscape? 2 rest).map fun (character, rest) => (.literal character, rest)
  | 'u' :: rest => (hexEscape? 4 rest).map fun (character, rest) => (.literal character, rest)
  | 'U' :: rest => (hexEscape? 8 rest).map fun (character, rest) => (.literal character, rest)
  | character :: rest =>
    if character.toNat < 128 && !character.isAlphanum then some (.literal character, rest) else none

/-- The union of ranges of characters. -/
def ranges : List (Char × Char) → CharSet
  | [] => .none
  | (low, high) :: rest => .union (.range low high) (ranges rest)

/-- The named sets that a character set may contain. -/
def namedSet? (name : String) : Option CharSet :=
  match name with
  | "alnum" => some (ranges [('0', '9'), ('A', 'Z'), ('a', 'z')])
  | "alpha" => some (ranges [('A', 'Z'), ('a', 'z')])
  | "ascii" => some (ranges [('\x00', '\x7f')])
  | "blank" => some (ranges [('\t', '\t'), (' ', ' ')])
  | "cntrl" => some (ranges [('\x00', '\x1f'), ('\x7f', '\x7f')])
  | "digit" => some (ranges [('0', '9')])
  | "graph" => some (ranges [('!', '~')])
  | "lower" => some (ranges [('a', 'z')])
  | "print" => some (ranges [(' ', '~')])
  | "punct" => some (ranges [('!', '/'), (':', '@'), ('[', '\x60'), ('\x7b', '~')])
  | "space" => some (ranges [('\t', '\r'), (' ', ' ')])
  | "upper" => some (ranges [('A', 'Z')])
  | "word" => some (ranges [('0', '9'), ('A', 'Z'), ('_', '_'), ('a', 'z')])
  | "xdigit" => some (ranges [('0', '9'), ('A', 'F'), ('a', 'f')])
  | _ => none

/-- Reads a named set behind its opening bracket and colon. -/
def bracketName? (text : List Char) : Option (CharSet × List Char) :=
  let (negated, text) :=
    match text with
    | '^' :: rest => (true, rest)
    | rest => (false, rest)
  match text.dropWhile (· != ':') with
  | ':' :: ']' :: rest => do
    let set ← namedSet? (String.ofList (text.takeWhile (· != ':')))
    some (if negated then .complement set else set, rest)
  | _ => none

/-- Reads one character or set inside a character set. -/
def setItem? : List Char → Option (Escape × List Char)
  | [] => none
  | '\\' :: rest => escape? rest
  | character :: rest => some (.literal character, rest)

/-- Reads an item or a range of a character set. A dash before the closing bracket or before another
dash is no range. -/
def setRange? (text : List Char) : Option (CharSet × List Char) := do
  match ← setItem? text with
  | (.anchor _, _) => none
  | (.set set, '-' :: rest) =>
    match rest with
    | ']' :: _ | '-' :: _ => some (set, '-' :: rest)
    | _ => none
  | (.set set, rest) => some (set, rest)
  | (.literal low, '-' :: rest) =>
    match rest with
    | [] => none
    | ']' :: _ | '-' :: _ => some (.range low low, '-' :: rest)
    | _ =>
      match ← setItem? rest with
      | (.literal high, rest) => if low ≤ high then some (.range low high, rest) else none
      | _ => none
  | (.literal character, rest) => some (.range character character, rest)

/-- The set operations that may stand between parts of a character set. -/
inductive SetOperation where
  | intersection
  | difference
  | symmetricDifference

/-- The set before an operation joined with the one after it. -/
def applied : Option (CharSet × SetOperation) → CharSet → CharSet
  | none, right => right
  | some (left, .intersection), right => .intersection left right
  | some (left, .difference), right => .intersection left (.complement right)
  | some (left, .symmetricDifference), right =>
    .union (.intersection left (.complement right)) (.intersection right (.complement left))

/-- Leading dashes of a character set, which are literal. -/
def leadingDashes : List Char → CharSet × List Char
  | '-' :: rest =>
    let (set, rest) := leadingDashes rest
    (.union (.range '-' '-') set, rest)
  | rest => (.none, rest)

mutual

/-- Reads a character set behind its opening bracket. -/
def charSet? : Nat → List Char → Option (CharSet × List Char)
  | 0, _ => none
  | fuel + 1, text => do
    let (negated, text) :=
      match text with
      | '^' :: rest => (true, rest)
      | rest => (false, rest)
    let (start, text) := leadingDashes text
    let (start, text) :=
      match start, text with
      | .none, ']' :: rest => (CharSet.range ']' ']', rest)
      | start, rest => (start, rest)
    let (set, rest) ← setParts? fuel none start text
    let closed := CharSet.caseClosed set
    some (if negated then .complement closed else closed, rest)

/-- Reads the parts of a character set up to its closing bracket. -/
def setParts? : Nat → Option (CharSet × SetOperation) → CharSet → List Char →
    Option (CharSet × List Char)
  | 0, _, _, _ => none
  | _ + 1, _, _, [] => none
  | _ + 1, before, set, ']' :: rest => some (applied before set, rest)
  | fuel + 1, before, set, '&' :: '&' :: rest =>
    setParts? fuel (some (applied before set, .intersection)) .none rest
  | fuel + 1, before, set, '-' :: '-' :: rest =>
    setParts? fuel (some (applied before set, .difference)) .none rest
  | fuel + 1, before, set, '~' :: '~' :: rest =>
    setParts? fuel (some (applied before set, .symmetricDifference)) .none rest
  | fuel + 1, before, set, '[' :: rest =>
    let named :=
      match rest with
      | ':' :: rest => bracketName? rest
      | _ => none
    match named with
    | some (inner, rest) => setParts? fuel before (.union set inner) rest
    | none => do
      let (inner, rest) ← charSet? fuel rest
      setParts? fuel before (.union set inner) rest
  | fuel + 1, before, set, text => do
    let (item, rest) ← setRange? text
    setParts? fuel before (.union set item) rest

end

/-- The switch that a letter names. -/
def flag? : Char → Option RegexFlag
  | 'i' => some .ignoreCase
  | 'm' => some .multiLine
  | 's' => some .dotAll
  | 'U' | 'u' => some .neutral
  | _ => none

/-- Reads switches up to the colon or the closing parenthesis behind them. A dash turns off the ones
after it. -/
def flags? (value : Bool) : List Char → Option (List (RegexFlag × Bool) × Char × List Char)
  | [] => none
  | '-' :: rest =>
    if value then
      match rest with
      | ')' :: _ | ':' :: _ | [] => none
      | _ => flags? false rest
    else none
  | ')' :: rest => some ([], ')', rest)
  | ':' :: rest => some ([], ':', rest)
  | letter :: rest => do
    let flag ← flag? letter
    let (others, ending, rest) ← flags? value rest
    some ((flag, value) :: others, ending, rest)

/-- Whether a character may stand in the name of a group. -/
def isNameCharacter (isFirst : Bool) (character : Char) : Bool :=
  character == '_' || character.isAlpha
    || (!isFirst && (character.isDigit || character == '.' || character == '[' || character == ']'))

/-- Reads the name of a group behind its opening angle bracket. -/
def groupName? (text : List Char) : Option (List Char) :=
  match text.takeWhile (· != '>'), text.dropWhile (· != '>') with
  | first :: others, _ :: rest =>
    if isNameCharacter true first && others.all (isNameCharacter false) then some rest else none
  | _, _ => none

/-- Reads the beginning of a group behind its parenthesis. -/
def group? : List Char → Option (RegexToken × List Char)
  | '?' :: 'P' :: '<' :: rest | '?' :: '<' :: rest =>
    (groupName? rest).map fun rest => (openGroup [], rest)
  | '?' :: ')' :: _ => none
  | '?' :: rest => do
    let (flags, ending, rest) ← flags? true rest
    some (if ending = ':' then openGroup flags else setFlags flags, rest)
  | rest => some (openGroup [], rest)

/-- Reads the first token of a text. -/
def first? : Char → List Char → Option (RegexToken × List Char)
  | '.', rest => some (dot, rest)
  | '^', rest => some (caret, rest)
  | '$', rest => some (dollar, rest)
  | '*', rest => some (count 0 none, dropLazy rest)
  | '+', rest => some (count 1 none, dropLazy rest)
  | '?', rest => some (count 0 (some 1), dropLazy rest)
  | '\x7b', rest => count? rest
  | '|', rest => some (bar, rest)
  | '(', rest => group? rest
  | ')', rest => some (closeGroup, rest)
  | '[', rest => (charSet? (2 * rest.length + 2) rest).map fun (set, rest) => (RegexToken.oneOf set, rest)
  | '\\', rest =>
    (escape? rest).map fun (escape, rest) =>
      match escape with
      | .literal character => (RegexToken.oneOf (.single character), rest)
      | .set named => (RegexToken.oneOf named, rest)
      | .anchor condition => (RegexToken.anchor condition, rest)
  | character, rest => some (RegexToken.oneOf (.single character), rest)

/-- The tokens of a text, at most `fuel` of them. -/
def scanFrom : Nat → List Char → Option (List RegexToken)
  | _, [] => some []
  | 0, _ :: _ => none
  | fuel + 1, head :: rest => do
    let (token, rest) ← first? head rest
    let others ← scanFrom fuel rest
    some (token :: others)

/-- The tokens of a text; there are no more of them than characters. -/
def scan (text : List Char) : Option (List RegexToken) := scanFrom text.length text

end RegexToken

end Polystore
