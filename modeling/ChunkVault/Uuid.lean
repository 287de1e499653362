/-
# ChunkVault.Uuid -- the ids of files and chunks

An id is 128 bits. It is written as 32 lower-case hexadecimal digits in groups of 8, 4, 4, 4 and 12,
and read in four forms: hyphenated, as 32 plain digits, in braces, and with the scheme `urn:uuid:`.
-/
import ChunkVault.Text.Hex

namespace ChunkVault

/-- A 128-bit id. -/
structure Uuid where
  bits : BitVec 128
deriving DecidableEq

namespace Uuid

/-- The id with these bits, given as a number. -/
def ofNat (n : Nat) : Uuid := ⟨BitVec.ofNat 128 n⟩

/-! ## Writing -/

/-- The 32 digits of an id, without hyphens. -/
def digits (id : Uuid) : List Char := Text.toHex 32 id.bits.toNat

/-- Puts the hyphens of the 8-4-4-4-12 grouping into a row of digits. -/
def hyphenate (ds : List Char) : List Char :=
  ds.take 8 ++ '-' :: (ds.drop 8).take 4 ++ '-' :: (ds.drop 12).take 4 ++
    '-' :: (ds.drop 16).take 4 ++ '-' :: ds.drop 20

/-- The usual text of an id: 36 characters. -/
def text (id : Uuid) : String := String.ofList (hyphenate id.digits)

/-! ## Reading -/

/-- Reads 32 plain digits. -/
def ofDigits? (cs : List Char) : Option Uuid :=
  if cs.length = 32 then (Text.ofHex? cs).map ofNat else none

/-- Reads the hyphenated form: the hyphens stand at offsets 8, 13, 18 and 23. -/
def ofHyphenated? (cs : List Char) : Option Uuid :=
  if cs.length = 36 ∧ [8, 13, 18, 23].all (fun i => cs[i]? = some '-') then
    ofDigits? (cs.take 8 ++ (cs.drop 9).take 4 ++ (cs.drop 14).take 4 ++ (cs.drop 19).take 4 ++ cs.drop 24)
  else none

/-- Drops the scheme that an id may carry, in letters of either case. -/
def dropScheme? (cs : List Char) : Option (List Char) :=
  if (cs.take 9).map Char.toLower = "urn:uuid:".toList then some (cs.drop 9) else none

/-- Reads an id in any of its four forms; the length tells which one it is. -/
def parse? (s : String) : Option Uuid :=
  let cs := s.toList
  match cs.length with
  | 32 => ofDigits? cs
  | 36 => ofHyphenated? cs
  | 38 => if cs.head? = some '{' ∧ cs.getLast? = some '}' then ofHyphenated? (cs.drop 1).dropLast else none
  | 45 => (dropScheme? cs).bind ofHyphenated?
  | _ => none

/-! ## Issuing -/

/-- Where the issued ids start: a version 4 id whose low 62 bits are zero. -/
def issueBase : Nat := 0x5f2c9a7be1d84c368000000000000000

/-- How many ids can be issued before one comes again: two to the power of 62. -/
def issueCount : Nat := 4611686018427387904

/-- The `n`-th id that a store issues. The first `issueCount` of them are pairwise different. -/
def issue (n : Nat) : Uuid := ofNat (issueBase + n % issueCount)

end Uuid
end ChunkVault
