/-
# ChunkVault.Http.Range -- a single byte range of a file

The value of a `Range` header is read in two steps. `RangeSpec.parse?` reads the positions that the
client asked for; `RangeSpec.select` cuts them down to a file of a given size. A header that asks for
several ranges, uses another unit or cannot be read is ignored, and the whole file is served.
-/
import ChunkVault.Text.Blank
import ChunkVault.Text.Decimal

namespace ChunkVault.Http

/-- The positions that a client asks for. -/
inductive RangeSpec where
  /-- The last `length` bytes. -/
  | suffix (length : Nat)
  /-- Everything from `first` on. -/
  | onward (first : Nat)
  /-- The bytes from `first` to `last`, both included. -/
  | between (first last : Nat)
deriving DecidableEq

/-- A range cut down to a file. -/
inductive ByteRange where
  /-- The bytes from `first` to `last`, both included. -/
  | span (first last : Nat)
  /-- None of the positions asked for exists. -/
  | unsatisfiable
deriving DecidableEq

namespace RangeSpec

/-- The text before and after the first hyphen. -/
def splitHyphen? (cs : List Char) : Option (List Char × List Char) :=
  if '-' ∈ cs then some (cs.takeWhile (· ≠ '-'), (cs.dropWhile (· ≠ '-')).drop 1) else none

/-- Reads the two positions; blanks around either are skipped. -/
def ofPositions? (first last : List Char) : Option RangeSpec :=
  if first.isEmpty then (Text.unsigned? Text.maxWord64 last).map suffix
  else
    match Text.unsigned? Text.maxWord64 first with
    | none => none
    | some a =>
      if last.isEmpty then some (onward a)
      else (Text.unsigned? Text.maxWord64 last).map (between a)

/-- The unit that ranges are counted in, with its equals sign. -/
def unit : List Char := "bytes=".toList

/-- Reads the value of a header. -/
def parse? (header : String) : Option RangeSpec :=
  let value := Text.trim header.toList
  if unit.isPrefixOf value then
    let ranges := value.drop unit.length
    if ',' ∈ ranges then none
    else (splitHyphen? ranges).bind fun (first, last) => ofPositions? (Text.trim first) (Text.trim last)
  else none

/-- The part of a file of `size` bytes that a range covers; `none` if the range runs backwards. -/
def select (size : Nat) : RangeSpec → Option ByteRange
  | suffix n =>
    if n = 0 ∨ size = 0 then some .unsatisfiable else some (.span (size - n) (size - 1))
  | onward a => if size ≤ a then some .unsatisfiable else some (.span a (size - 1))
  | between a b =>
    if b < a then none
    else if size ≤ a then some .unsatisfiable
    else some (.span a (min b (size - 1)))

end RangeSpec

/-- What a header asks of a file of `size` bytes; `none` if the header is to be ignored. -/
def ByteRange.parse? (header : String) (size : Nat) : Option ByteRange :=
  (RangeSpec.parse? header).bind (RangeSpec.select size)

end ChunkVault.Http
