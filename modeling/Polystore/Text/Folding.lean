/-
**Characters up to case.**

`Text.foldedCode` is the simple case folding of a character; two characters are the same but for case
when they fold to the same one. `Text.caseVariants` lists the characters that a character is the same
as, itself included.
-/

import Polystore.Text.FoldingRanges

namespace Polystore.Text

/-- Whether a code point is one of the range. -/
def FoldingRange.holds (range : FoldingRange) (code : Nat) : Bool :=
  range.first ≤ code && code ≤ range.last && (code - range.first) % range.step == 0

/-- The folded form of a code point. -/
def foldedCode (code : Nat) : Nat :=
  match foldingRanges.find? (·.holds code) with
  | some range => ((code : Int) + range.shift).toNat
  | none => code

/-- Whether two characters differ in case only. -/
def sameButCase (left right : Char) : Bool :=
  left == right || foldedCode left.toNat == foldedCode right.toNat

/-- The code point of the range that folds to `folded`, if there is one. -/
def FoldingRange.source? (range : FoldingRange) (folded : Nat) : Option Nat :=
  let source := ((folded : Int) - range.shift).toNat
  if range.holds source && ((source : Int) + range.shift).toNat == folded then some source else none

/-- The characters that differ from a character in case only, and itself. -/
def caseVariants (character : Char) : List Char :=
  let folded := foldedCode character.toNat
  character :: Char.ofNat folded
    :: (foldingRanges.filterMap fun range => (range.source? folded).map Char.ofNat)

example : sameButCase 'K' '\u212a' = true := by decide
example : sameButCase 'σ' 'ς' = true := by decide
example : sameButCase 'i' 'ı' = false := by decide

end Polystore.Text
