/-
# ChunkVault.Text.Printable -- characters that print on their own, and strings in quotes

A character prints on its own unless it is not graphic, is a mark that joins the character before it, or
is a filler that shows nothing. Of the marks that take room those join the character before which cannot
stand without it (the Unicode property `Grapheme_Extend`).
-/
import ChunkVault.Text.Graphic
import ChunkVault.Text.Hex

namespace ChunkVault.Text

/-- The ranges of marks that take room and yet join the character before, and of fillers. -/
def joined : Ranges := [
  (0x9be, 0x9be), (0x9d7, 0x9d7), (0xb3e, 0xb3e), (0xb57, 0xb57), (0xbbe, 0xbbe), (0xbd7, 0xbd7),
  (0xcc0, 0xcc0), (0xcc2, 0xcc2), (0xcc7, 0xcc8), (0xcca, 0xccb), (0xcd5, 0xcd6), (0xd3e, 0xd3e),
  (0xd57, 0xd57), (0xdcf, 0xdcf), (0xddf, 0xddf), (0x115f, 0x1160), (0x1715, 0x1715),
  (0x1734, 0x1734), (0x1b35, 0x1b35), (0x1b3b, 0x1b3b), (0x1b3d, 0x1b3d), (0x1b43, 0x1b44),
  (0x1baa, 0x1baa), (0x1bf2, 0x1bf3), (0x302e, 0x302f), (0x3164, 0x3164), (0xa953, 0xa953),
  (0xa9c0, 0xa9c0), (0xffa0, 0xffa0), (0x111c0, 0x111c0), (0x11235, 0x11235), (0x1133e, 0x1133e),
  (0x1134d, 0x1134d), (0x11357, 0x11357), (0x113b8, 0x113b8), (0x113c2, 0x113c2),
  (0x113c5, 0x113c5), (0x113c7, 0x113c9), (0x113cf, 0x113cf), (0x114b0, 0x114b0),
  (0x114bd, 0x114bd), (0x115af, 0x115af), (0x116b6, 0x116b6), (0x11930, 0x11930),
  (0x1193d, 0x1193d), (0x11f41, 0x11f41), (0x16ff0, 0x16ff1), (0x1d165, 0x1d166),
  (0x1d16d, 0x1d172)]

/-- Whether a character prints on its own. -/
def isPrintable (c : Char) : Bool := isGraphic c && !isNonspacingMark c && !joined.has c

/-- A character as it stands in a quoted string. -/
def quotedChar (c : Char) : List Char :=
  match c with
  | '\x00' => ['\\', '0']
  | '\t' => ['\\', 't']
  | '\n' => ['\\', 'n']
  | '\r' => ['\\', 'r']
  | '"' => ['\\', '"']
  | '\\' => ['\\', '\\']
  | _ =>
    if isPrintable c then [c]
    else ['\\', 'u', '\x7b'] ++ Nat.toDigits 16 c.toNat ++ ['\x7d']

/-- A string in double quotes, with whatever does not print on its own escaped. -/
def quoted (s : String) : String := String.ofList ('"' :: s.toList.flatMap quotedChar ++ ['"'])

end ChunkVault.Text
