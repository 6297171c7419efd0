/-
**The base-64 text of bytes: four characters for three bytes, filled up with `=` at the end.**
-/

namespace Polystore.Base64

/-- The character of a number below sixty-four. -/
def letter (number : Nat) : Char :=
  if number < 26 then Char.ofNat (65 + number)
  else if number < 52 then Char.ofNat (71 + number)
  else if number < 62 then Char.ofNat (number - 4)
  else if number = 62 then '+'
  else '/'

/-- The text of bytes, three at a time. -/
def encode : List UInt8 → List Char
  | [] => []
  | [first] =>
    let block := first.toNat * 16
    [letter (block / 64), letter (block % 64), '=', '=']
  | [first, second] =>
    let block := (first.toNat * 256 + second.toNat) * 4
    [letter (block / 4096), letter (block / 64 % 64), letter (block % 64), '=']
  | first :: second :: third :: rest =>
    let block := (first.toNat * 256 + second.toNat) * 256 + third.toNat
    letter (block / 262144) :: letter (block / 4096 % 64) :: letter (block / 64 % 64)
      :: letter (block % 64) :: encode rest

end Polystore.Base64
