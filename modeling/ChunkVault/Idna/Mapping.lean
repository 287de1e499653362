/-
# ChunkVault.Idna.Mapping -- what stands for a character in a domain name

Capital letters are written small, and characters that are only another form of others are replaced by
those. Some characters are left out, and some make a name invalid.
-/
import ChunkVault.Idna.MappingTable
import ChunkVault.Text.Graphic
import ChunkVault.Text.Hex
import ChunkVault.Text.Parts

namespace ChunkVault.Idna

/-- What stands for the characters of a range. -/
structure MappingEntry where
  first : Nat
  last : Nat
  /-- The distance between two characters of the range that are meant. -/
  step : Nat
  /-- What stands for the first of them. -/
  image : List Nat

namespace MappingEntry

/-- Reads the range of an entry. -/
def range? (cs : List Char) : Option (Nat × Nat) :=
  match Text.splitAt? '-' cs with
  | some (first, last) => do return (← Text.ofHex? first, ← Text.ofHex? last)
  | none => (Text.ofHex? cs).map fun n => (n, n)

/-- Reads an entry. -/
def ofText? (cs : List Char) : Option MappingEntry := do
  let (source, image) ← Text.splitAt? ':' cs
  let (source, step) := match Text.splitAt? '/' source with
    | some (source, _) => (source, 2)
    | none => (source, 1)
  let (first, last) ← range? source
  let image ← if image.isEmpty then some [] else (Text.parts '.' image).mapM Text.ofHex?
  return ⟨first, last, step, image⟩

/-- Whether an entry is for a character. -/
def covers (e : MappingEntry) (n : Nat) : Bool := e.first ≤ n && n ≤ e.last && (n - e.first) % e.step = 0

/-- What stands for a character of the range. -/
def imageOf (e : MappingEntry) (n : Nat) : List Char :=
  match e.image with
  | [image] => [Char.ofNat (image + (n - e.first))]
  | image => image.map Char.ofNat

end MappingEntry

/-- All entries. -/
def mappingEntries : List MappingEntry :=
  mappingTable.flatMap fun line => (Text.parts ' ' line.toList).filterMap MappingEntry.ofText?

/-- The ranges of graphic characters that make a name invalid: those whose other form holds a point,
descriptions of ideographs, and the replacement characters. -/
def refused : Text.Ranges := [
  (0x2024, 0x2026), (0x2488, 0x249b), (0x2ff0, 0x2fff), (0x31ef, 0x31ef), (0x33c2, 0x33c2),
  (0x33c7, 0x33c7), (0x33d8, 0x33d8), (0xfe12, 0xfe12), (0xfe19, 0xfe19), (0xfe30, 0xfe30),
  (0xfe52, 0xfe52), (0xfffc, 0xfffd), (0x1f100, 0x1f100)]

/-- Whether a character only says whether its neighbours are joined in writing. -/
def isJoiner (c : Char) : Bool := c = '\u200c' || c = '\u200d'

/-- What stands for a character; `none` if it makes a name invalid. What is forbidden of ASCII is not told
apart here. -/
def image? (c : Char) : Option (List Char) :=
  if c.toNat < 0x80 then some [c.toLower]
  else
    match mappingEntries.find? (·.covers c.toNat) with
    | some e => some (e.imageOf c.toNat)
    | none => if isJoiner c || (Text.isGraphic c && !refused.has c) then some [c] else none

/-- Whether a character stands for itself. -/
def isKept (c : Char) : Bool := image? c = some [c]

end ChunkVault.Idna
