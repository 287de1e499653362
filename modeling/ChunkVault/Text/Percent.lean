/-
# ChunkVault.Text.Percent -- percent-encoded text

A percent sign with two hexadecimal digits stands for one byte; one without them stands for itself. The
bytes have to be UTF-8.
-/
import ChunkVault.Text.Hex

namespace ChunkVault.Text

/-- The byte for two hexadecimal digits. -/
def hexByte? (high low : Char) : Option UInt8 :=
  (ofHex? [high, low]).map UInt8.ofNat

/-- The bytes that a text stands for. -/
def percentBytes : List Char → List UInt8
  | [] => []
  | '%' :: high :: low :: rest =>
    match hexByte? high low with
    | some b => b :: percentBytes rest
    | none => 37 :: percentBytes (high :: low :: rest)
  | c :: rest => (String.singleton c).toUTF8.toList ++ percentBytes rest

/-- The text that a percent-encoded text stands for, unless its bytes are no UTF-8. -/
def percentDecode? (s : String) : Option String :=
  String.fromUTF8? (ByteArray.mk (percentBytes s.toList).toArray)

end ChunkVault.Text
