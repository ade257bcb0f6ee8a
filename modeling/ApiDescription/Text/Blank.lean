/-!
# White space

The characters with the property White_Space, and texts without them at their ends.
-/

namespace ApiDescription.Text

/-- Whether a character is white space. -/
def isBlank (c : Char) : Bool :=
  let n := c.toNat
  (9 ≤ n && n ≤ 13) || n = 0x20 || n = 0x85 || n = 0xA0 || n = 0x1680 ||
    (0x2000 ≤ n && n ≤ 0x200A) || n = 0x2028 || n = 0x2029 || n = 0x202F || n = 0x205F ||
    n = 0x3000

/-- A text without the characters of a class at its ends. -/
def trimBy (outer : Char → Bool) (text : List Char) : List Char :=
  ((text.dropWhile outer).reverse.dropWhile outer).reverse

/-- A text without white space at its ends. -/
def trim (text : List Char) : List Char := trimBy isBlank text

end ApiDescription.Text
