/-!
# Blank characters

The blank characters are the members of Unicode's `White_Space` property; `trim` removes them from
both ends of a text.
-/

set_option autoImplicit false

namespace Scaffold.Text

/-- The `White_Space` characters. The byte order mark and the zero width space are none. -/
def isBlank (c : Char) : Bool :=
  let n := c.toNat
  (9 ≤ n && n ≤ 13) || n = 0x20 || n = 0x85 || n = 0xA0 || n = 0x1680 ||
    (0x2000 ≤ n && n ≤ 0x200A) || n = 0x2028 || n = 0x2029 || n = 0x202F || n = 0x205F ||
    n = 0x3000

/-- Drops the characters at the end that satisfy `p`. -/
def dropEndWhile (p : Char → Bool) (s : List Char) : List Char :=
  (s.reverse.dropWhile p).reverse

/-- Drops the blank characters at both ends. -/
def trimChars (s : List Char) : List Char :=
  dropEndWhile isBlank (s.dropWhile isBlank)

/-- Drops the blank characters at both ends. -/
def trim (s : String) : String :=
  .ofList (trimChars s.toList)

end Scaffold.Text
