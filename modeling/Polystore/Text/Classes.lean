/-
**Classes of characters, read off tables of ranges.**
-/

import Polystore.Text.Blank
import Polystore.Text.DigitRanges
import Polystore.Text.ExtenderRanges
import Polystore.Text.UnprintableRanges
import Polystore.Text.WordRanges

namespace Polystore.Text

/-- Whether a code point lies in one of the ranges. -/
def inRanges (ranges : List (Nat × Nat)) (code : Nat) : Bool :=
  ranges.any fun (first, last) => first ≤ code && code ≤ last

/-- Letters, marks, digits, connectors and joiners. -/
def isWordCharacter (character : Char) : Bool := inRanges wordRanges character.toNat

/-- Decimal digits of any script. -/
def isDecimalDigit (character : Char) : Bool := inRanges digitRanges character.toNat

/-- Characters that attach to the one before them. -/
def isExtender (character : Char) : Bool := inRanges extenderRanges character.toNat

/-- Characters with a printed form; of the separators only the space has one. -/
def isPrintable (character : Char) : Bool :=
  character == ' ' || !inRanges unprintableRanges character.toNat

end Polystore.Text
