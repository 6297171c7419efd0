/-
**Reading written regular expressions.**

`Regex.ofText?` reads a text under given switches; it gives none for a text that is no regular
expression. The reader goes through the tokens once and keeps the groups that are still open.
-/

import Polystore.Regex.Token

namespace Polystore.Regex

/-- The switches in force. -/
structure Switches where
  ignoreCase : Bool
  multiLine : Bool
  dotAll : Bool
  deriving DecidableEq, Repr

namespace Switches

/-- The switches named by the letters of a text. -/
def ofLetters (letters : String) : Switches :=
  ⟨letters.toList.contains 'i', letters.toList.contains 'm', letters.toList.contains 's'⟩

/-- The switches after one change. -/
def changed (switches : Switches) : RegexFlag × Bool → Switches
  | (.ignoreCase, value) => { switches with ignoreCase := value }
  | (.multiLine, value) => { switches with multiLine := value }
  | (.dotAll, value) => { switches with dotAll := value }
  | (.neutral, _) => switches

end Switches

/-- What was read of a group: the alternatives before the last bar and the items after it, the last
ones first. An item that only changes switches is none, and cannot be repeated. -/
structure Open where
  alternatives : List Regex
  items : List (Option Regex)
  /-- The switches to go back to at the end of the group. -/
  outer : Switches

namespace Open

/-- The sequence of the items read so far. -/
def sequence (group : Open) : Regex := sequenceAll (group.items.reverse.filterMap id)

/-- The expression of a group that ends here. -/
def close (group : Open) : Regex := choiceAll ((group.sequence :: group.alternatives).reverse)

def push (item : Option Regex) (group : Open) : Open := { group with items := item :: group.items }

/-- The group after a bar. -/
def bar (group : Open) : Open :=
  { group with alternatives := group.sequence :: group.alternatives, items := [] }

/-- The group with its last item repeated, if there is one. -/
def repeatLast? (least : Nat) (most : Option Nat) (group : Open) : Option Open :=
  match group.items with
  | some item :: rest => some { group with items := some (.repeated item least most) :: rest }
  | _ => none

end Open

/-- The expression of a token that stands for one character or one place. -/
def simple? (switches : Switches) : RegexToken → Option Regex
  | .oneOf set => some (.character switches.ignoreCase set)
  | .dot => some (.character false (if switches.dotAll then .any else .complement (.single '\n')))
  | .caret => some (.anchor (if switches.multiLine then .lineStart else .textStart))
  | .dollar => some (.anchor (if switches.multiLine then .lineEnd else .textEnd))
  | .anchor condition => some (.anchor condition)
  | _ => none

/-- Reads tokens into the innermost open group; `around` are the groups around it. -/
def readTokens : List RegexToken → Switches → Open → List Open → Option Regex
  | [], _, group, [] => some group.close
  | [], _, _, _ :: _ => none
  | .count least most :: rest, switches, group, around => do
    let group ← group.repeatLast? least most
    readTokens rest switches group around
  | .bar :: rest, switches, group, around => readTokens rest switches group.bar around
  | .openGroup flags :: rest, switches, group, around =>
    readTokens rest (flags.foldl .changed switches) ⟨[], [], switches⟩ (group :: around)
  | .setFlags flags :: rest, switches, group, around =>
    readTokens rest (flags.foldl .changed switches) (group.push none) around
  | .closeGroup :: _, _, _, [] => none
  | .closeGroup :: rest, _, group, outer :: around =>
    readTokens rest group.outer (outer.push (some group.close)) around
  | token :: rest, switches, group, around => do
    let item ← simple? switches token
    readTokens rest switches (group.push (some item)) around

/-- The expression that a text writes. -/
def ofText? (switches : Switches) (text : String) : Option Regex := do
  let tokens ← RegexToken.scan text.toList
  readTokens tokens switches ⟨[], [], switches⟩ []

end Polystore.Regex
