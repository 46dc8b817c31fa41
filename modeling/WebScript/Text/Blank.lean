/-!
# White space

The characters with the White_Space property, and trimming them from either end.
-/

namespace WebScript.Text

/-- White space: tab to carriage return, space, next line, no-break space, and the spaces and
separators of the other blocks. -/
def isBlank (c : Char) : Bool :=
  let n := c.toNat
  (9 ≤ n && n ≤ 13) || n == 0x20 || n == 0x85 || n == 0xA0 || n == 0x1680 ||
    (0x2000 ≤ n && n ≤ 0x200A) || n == 0x2028 || n == 0x2029 || n == 0x202F || n == 0x205F ||
    n == 0x3000

/-- Without the white space in front. -/
def trimStart (cs : List Char) : List Char := cs.dropWhile isBlank

/-- Without the white space at the end. -/
def trimEnd (cs : List Char) : List Char := (cs.reverse.dropWhile isBlank).reverse

/-- Without the white space at either end. -/
def trim (cs : List Char) : List Char := trimEnd (trimStart cs)

end WebScript.Text
