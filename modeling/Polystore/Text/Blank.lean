/-
**White space, by the `White_Space` property of characters, and texts trimmed of it.**
-/

namespace Polystore.Text

/-- The characters with the property `White_Space`. -/
def isBlank (character : Char) : Bool :=
  let code := character.toNat
  (0x09 ≤ code && code ≤ 0x0d) || code == 0x20 || code == 0x85 || code == 0xa0 || code == 0x1680
    || (0x2000 ≤ code && code ≤ 0x200a) || code == 0x2028 || code == 0x2029 || code == 0x202f
    || code == 0x205f || code == 0x3000

/-- The text without white space at its two ends. -/
def trimmed (text : List Char) : List Char :=
  ((text.dropWhile isBlank).reverse.dropWhile isBlank).reverse

/-- The string without white space at its two ends. -/
def trim (text : String) : String := String.ofList (trimmed text.toList)

/-- Whether nothing but white space stands in the text. -/
def isAllBlank (text : String) : Bool := text.toList.all isBlank

end Polystore.Text
