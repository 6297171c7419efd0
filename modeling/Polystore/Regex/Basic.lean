/-
**Regular expressions and the texts they match.**

A `Regex` is matched from a `Cursor`, a place in a text given by the character before it and the rest
behind it. `Regex.ends` lists the places where a match from a cursor can end, and `Regex.isMatch` asks
for a match that starts anywhere. Matching is by sets of places, so it needs no backtracking, and each
round of a repetition that adds places goes forward in the text.
-/

import Polystore.Text.Classes
import Polystore.Text.Folding

namespace Polystore

/-- A set of characters. -/
inductive CharSet where
  | none
  | any
  | single (character : Char)
  | range (low high : Char)
  | digit
  | space
  | word
  | union (left right : CharSet)
  | intersection (left right : CharSet)
  | complement (set : CharSet)
  /-- The set together with the characters that differ from one of it in case, where case is
  ignored. -/
  | caseClosed (set : CharSet)
  deriving DecidableEq, Repr, Inhabited

namespace CharSet

/-- Whether a character belongs to the set. -/
def holds (ignoreCase : Bool) : CharSet → Char → Bool
  | none, _ => false
  | any, _ => true
  | single expected, character =>
    if ignoreCase then Text.sameButCase expected character else expected == character
  | range low high, character => low ≤ character && character ≤ high
  | digit, character => Text.isDecimalDigit character
  | space, character => Text.isBlank character
  | word, character => Text.isWordCharacter character
  | union left right, character => left.holds ignoreCase character || right.holds ignoreCase character
  | intersection left right, character =>
    left.holds ignoreCase character && right.holds ignoreCase character
  | complement set, character => !set.holds ignoreCase character
  | caseClosed set, character =>
    if ignoreCase then (Text.caseVariants character).any (set.holds ignoreCase)
    else set.holds ignoreCase character

end CharSet

/-- A condition on a place in a text. -/
inductive Anchor where
  | textStart
  | textEnd
  | lineStart
  | lineEnd
  | wordBoundary
  | noWordBoundary
  | wordStart
  | wordEnd
  deriving DecidableEq, Repr

/-- A regular expression. -/
inductive Regex where
  | empty
  | character (ignoreCase : Bool) (set : CharSet)
  | anchor (condition : Anchor)
  | sequence (first second : Regex)
  | choice (first second : Regex)
  /-- At least `least` and, where there is a bound, at most `most` times. -/
  | repeated (inner : Regex) (least : Nat) (most : Option Nat)
  deriving DecidableEq, Repr, Inhabited

/-- A place in a text. -/
structure Cursor where
  before : Option Char
  rest : List Char
  deriving DecidableEq, Repr

namespace Cursor

/-- All places from a cursor to the end of its text. -/
def onwards (before : Option Char) : List Char → List Cursor
  | [] => [⟨before, []⟩]
  | head :: rest => ⟨before, head :: rest⟩ :: onwards (some head) rest

/-- The places of a text. -/
def all (text : List Char) : List Cursor := onwards none text

/-- Whether a word character stands before, and whether one follows. -/
def besideWords (cursor : Cursor) : Bool × Bool :=
  (cursor.before.any Text.isWordCharacter, cursor.rest.head?.any Text.isWordCharacter)

/-- Whether a condition holds at the place. -/
def satisfies (cursor : Cursor) : Anchor → Bool
  | .textStart => cursor.before.isNone
  | .textEnd => cursor.rest.isEmpty
  | .lineStart => cursor.before.all (· == '\n')
  | .lineEnd => cursor.rest.head?.all (· == '\n')
  | .wordBoundary => cursor.besideWords.1 != cursor.besideWords.2
  | .noWordBoundary => cursor.besideWords.1 == cursor.besideWords.2
  | .wordStart => !cursor.besideWords.1 && cursor.besideWords.2
  | .wordEnd => cursor.besideWords.1 && !cursor.besideWords.2

end Cursor

namespace Regex

/-- The places after exactly `count` rounds of a step. -/
def rounds (step : Cursor → List Cursor) : Nat → List Cursor → List Cursor
  | 0, places => places
  | _ + 1, [] => []
  | count + 1, places => rounds step count (places.flatMap step).eraseDups

/-- The places after any number of rounds of a step, at most `fuel`. Rounds that stand still add
nothing and are left out. -/
def closure (step : Cursor → List Cursor) : Nat → List Cursor → List Cursor
  | 0, places => places
  | _ + 1, [] => []
  | fuel + 1, places =>
    let further := places.flatMap fun place =>
      (step place).filter fun next => next.rest.length < place.rest.length
    places ++ closure step fuel further.eraseDups

/-- The places after between `least` and `most` rounds of a step from a place. -/
def repeatedEnds (step : Cursor → List Cursor) (least : Nat) (most : Option Nat) (cursor : Cursor) :
    List Cursor :=
  let fuel := cursor.rest.length
  let reached := rounds step least [cursor]
  let more :=
    match most with
    | some most => min (most - least) fuel
    | none => fuel
  (closure step more reached).eraseDups

/-- The places where a match from a cursor can end. -/
def ends : Regex → Cursor → List Cursor
  | empty, cursor => [cursor]
  | character ignoreCase set, cursor =>
    match cursor.rest with
    | [] => []
    | head :: rest => if set.holds ignoreCase head then [⟨some head, rest⟩] else []
  | anchor condition, cursor => if cursor.satisfies condition then [cursor] else []
  | sequence first second, cursor => ((first.ends cursor).flatMap second.ends).eraseDups
  | choice first second, cursor => (first.ends cursor ++ second.ends cursor).eraseDups
  | repeated inner least most, cursor => repeatedEnds inner.ends least most cursor

/-- Whether the expression matches some part of a text. -/
def isMatch (regex : Regex) (text : String) : Bool :=
  (Cursor.all text.toList).any fun cursor => !(regex.ends cursor).isEmpty

/-- The sequence of expressions. -/
def sequenceAll : List Regex → Regex
  | [] => empty
  | [only] => only
  | first :: rest => sequence first (sequenceAll rest)

/-- The choice between expressions. -/
def choiceAll : List Regex → Regex
  | [] => empty
  | [only] => only
  | first :: rest => choice first (choiceAll rest)

end Regex

end Polystore
