/-
# ChunkVault.Text.Decimal -- unsigned numbers as they are written in headers and variables

A number is an optional plus sign followed by one or more ASCII digits, and it has to fit the width
that the caller names. Leading zeros are allowed; blanks, underscores and a minus sign are not.
-/

namespace ChunkVault.Text

/-- The greatest number of 16 bits. -/
def maxWord16 : Nat := 65535

/-- The greatest number of 32 bits. -/
def maxWord32 : Nat := 4294967295

/-- The greatest number of 64 bits. -/
def maxWord64 : Nat := 18446744073709551615

/-- An ASCII digit. -/
def isDigit (c : Char) : Bool := '0' ≤ c && c ≤ '9'

/-- The value of a digit. -/
def digitValue (c : Char) : Nat := c.toNat - '0'.toNat

/-- The number that a row of digits stands for, most significant digit first. -/
def ofDigits (cs : List Char) : Nat := cs.foldl (fun n c => 10 * n + digitValue c) 0

/-- Reads one or more digits, and nothing else. -/
def digits? (cs : List Char) : Option Nat :=
  if cs.isEmpty || !cs.all isDigit then none else some (ofDigits cs)

/-- The characters after an optional plus sign. -/
def dropPlus : List Char → List Char
  | '+' :: rest => rest
  | cs => cs

/-- Reads an unsigned number of at most `limit`. -/
def unsigned? (limit : Nat) (cs : List Char) : Option Nat :=
  (digits? (dropPlus cs)).filter (· ≤ limit)

end ChunkVault.Text
