/-
**Fresh identifiers.**

An `IdentifierSource` is a seed and the number of draws made from it. Each draw gives 128 bits that no
other draw of the source gives, up to the width of the number; object identifiers and random-form
UUIDs are read off a draw.
-/

import Polystore.ObjectId

namespace Polystore

/-- A supply of identifiers. -/
structure IdentifierSource where
  seed : Nat
  drawn : Nat
  deriving DecidableEq, Repr

/-- The bits of one draw. -/
abbrev Draw := BitVec 128

namespace IdentifierSource

/-- The bits of the draw with the given number. -/
def draw (source : IdentifierSource) (number : Nat) : Draw := BitVec.ofNat 128 (source.seed + number)

/-- The next draw and the source after it. -/
def next (source : IdentifierSource) : Draw × IdentifierSource :=
  (source.draw source.drawn, { source with drawn := source.drawn + 1 })

end IdentifierSource

/-- The object identifier in the low 96 bits of a draw. Later draws give greater identifiers. -/
def ObjectId.ofDraw (draw : Draw) : ObjectId := ⟨draw.setWidth 96⟩

/-- The text of a UUID of version 4: the digits of a draw in groups of 8, 4, 4, 4 and 12, with the
version and the variant written over two of them. -/
def uuidOfDraw (draw : Draw) : String :=
  let digits := Hex.digits 32 draw.toNat
  let variant := Hex.digit (8 + (draw.toNat / 0x4000000000000000) % 4)
  let group (start count : Nat) : List Char := (digits.drop start).take count
  String.ofList <|
    group 0 8 ++ '-' :: group 8 4 ++ '-' :: '4' :: group 13 3 ++ '-' :: variant :: group 17 3
      ++ '-' :: group 20 12

end Polystore
