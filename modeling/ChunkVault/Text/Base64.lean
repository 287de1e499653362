/-
# ChunkVault.Text.Base64 -- bytes in the standard base 64 alphabet

Three bytes make four digits, the most significant bits first. A rest of one or two bytes is filled up
with zero bits, and the digits that are missing are written as equals signs.
-/
import ChunkVault.Record

namespace ChunkVault.Text

/-- The digit for a value below 64. -/
def base64Digit (n : Nat) : Char :=
  if n < 26 then Char.ofNat ('A'.toNat + n)
  else if n < 52 then Char.ofNat ('a'.toNat + (n - 26))
  else if n < 62 then Char.ofNat ('0'.toNat + (n - 52))
  else if n = 62 then '+' else '/'

/-- The digits of a group of three bytes, given as one number of 24 bits. -/
def base64Group (n : Nat) : List Char :=
  [base64Digit (n / 262144 % 64), base64Digit (n / 4096 % 64), base64Digit (n / 64 % 64),
    base64Digit (n % 64)]

/-- The digits of some bytes. -/
def base64Digits : Bytes → List Char
  | a :: b :: c :: rest =>
    base64Group (a.toNat * 65536 + b.toNat * 256 + c.toNat) ++ base64Digits rest
  | [a, b] => (base64Group (a.toNat * 65536 + b.toNat * 256)).take 3 ++ ['=']
  | [a] => (base64Group (a.toNat * 65536)).take 2 ++ ['=', '=']
  | [] => []

/-- The text of some bytes. -/
def base64 (content : Bytes) : String := String.ofList (base64Digits content)

end ChunkVault.Text
