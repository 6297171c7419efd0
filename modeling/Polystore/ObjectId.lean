/-
**The identifiers that document stores give to their documents: twelve bytes, written as 24
hexadecimal digits.**
-/

import Polystore.Text.Hex

namespace Polystore

/-- An identifier of twelve bytes, read as one number with the first byte in front. -/
structure ObjectId where
  value : BitVec 96
  deriving DecidableEq, Repr, Inhabited

namespace ObjectId

/-- The 24 lower-case digits of an identifier. -/
def hex (identifier : ObjectId) : String := String.ofList (Hex.digits 24 identifier.value.toNat)

/-- The identifier written by exactly 24 digits of either case. -/
def ofHex? (text : String) : Option ObjectId :=
  if text.toList.length = 24 then
    (Hex.number? text.toList).map fun number => ⟨BitVec.ofNat 96 number⟩
  else none

/-- Identifiers are ordered as their bytes are. -/
def order (left right : ObjectId) : Ordering := compare left.value.toNat right.value.toNat

/-- The digits of an identifier read back to it. -/
theorem ofHex?_hex (identifier : ObjectId) : ofHex? identifier.hex = some identifier := by
  have small : identifier.value.toNat < Nat.pow 16 24 := identifier.value.isLt
  simp only [ofHex?, hex, String.toList_ofList, Hex.length_digits, if_true, Hex.number?_digits,
    Nat.mod_eq_of_lt small, Option.map_some, BitVec.ofNat_toNat, BitVec.setWidth_eq]

end ObjectId

end Polystore
