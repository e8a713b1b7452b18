/-!
# White space

The twenty-five characters with the property White_Space, and texts trimmed of them.

## Main definitions

* `isBlank`: a character is white space.
* `trim`: a text without white space at its ends.
-/

namespace ImageImports.Text

/-- White space: the space, tab to carriage return, and the spaces and separators beyond
ASCII. -/
def isBlank (c : Char) : Bool :=
  let n := c.toNat
  n == 0x20 || (0x9 ≤ n && n ≤ 0xD) || n == 0x85 || n == 0xA0 || n == 0x1680 ||
    (0x2000 ≤ n && n ≤ 0x200A) || n == 0x2028 || n == 0x2029 || n == 0x202F || n == 0x205F ||
    n == 0x3000

/-- The characters without white space at either end. -/
def trim (chars : List Char) : List Char :=
  ((chars.dropWhile isBlank).reverse.dropWhile isBlank).reverse

end ImageImports.Text
