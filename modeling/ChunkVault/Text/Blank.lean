/-
# ChunkVault.Text.Blank -- blank characters, and text with its blank ends cut off

A character is blank when the Unicode property `White_Space` holds of it. Header values, host names
and connection strings are trimmed by this rule, so a zero-width space is not blank and an ideographic
space is.
-/

namespace ChunkVault.Text

/-- The Unicode property `White_Space`: 25 characters in ten ranges. -/
def isBlank (c : Char) : Bool :=
  let n := c.toNat
  (0x09 ≤ n && n ≤ 0x0D) || n == 0x20 || n == 0x85 || n == 0xA0 || n == 0x1680 ||
    (0x2000 ≤ n && n ≤ 0x200A) || n == 0x2028 || n == 0x2029 || n == 0x202F || n == 0x205F ||
    n == 0x3000

/-- The characters without the blanks at the front. -/
def trimFront (cs : List Char) : List Char := cs.dropWhile isBlank

/-- The characters without the blanks at the back. -/
def trimBack (cs : List Char) : List Char := (cs.reverse.dropWhile isBlank).reverse

/-- The characters without the blanks at either end. -/
def trim (cs : List Char) : List Char := trimBack (trimFront cs)

/-- Text that holds nothing but blanks. -/
def isBlankText (s : String) : Bool := s.toList.all isBlank

end ChunkVault.Text
