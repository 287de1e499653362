/-
# ChunkVault.Text.Quoted -- strings in the quotes of JSON

A quote, a backslash and the control characters below 32 are escaped, by a letter where there is one;
all else stands as it is.
-/
import ChunkVault.Text.Hex

namespace ChunkVault.Text

/-- The letter that a character is escaped by, if it has one. -/
def escapeLetter? (c : Char) : Option Char :=
  match c.toNat with
  | 0x08 => some 'b'
  | 0x09 => some 't'
  | 0x0A => some 'n'
  | 0x0C => some 'f'
  | 0x0D => some 'r'
  | 0x22 => some '"'
  | 0x5C => some '\\'
  | _ => none

/-- A character as it stands inside of quotes. -/
def escape (c : Char) : List Char :=
  match escapeLetter? c with
  | some letter => ['\\', letter]
  | none => if c.toNat < 32 then ['\\', 'u'] ++ toHex 4 c.toNat else [c]

/-- A string in quotes. -/
def jsonString (s : String) : String := String.ofList ('"' :: s.toList.flatMap escape ++ ['"'])

/-- An object, from its names and the texts of its values. -/
def jsonObject (fields : List (String × String)) : String :=
  "\x7b" ++ String.intercalate "," (fields.map fun (name, value) => jsonString name ++ ":" ++ value) ++
    "\x7d"

end ChunkVault.Text
