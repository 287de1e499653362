/-
# ChunkVault.Text.Utf8 -- bytes that are no UTF-8

Bytes are looked through from the front. Where they go wrong, the bytes that could still have begun a
character are counted: they are wrong together. If the bytes end there, more could have made them right.
-/

namespace ChunkVault.Text

/-- The number of bytes of a character that begins with a byte beyond ASCII, and the range that its second
byte lies in; `none` if no character begins so. -/
def leadByte? (b : UInt8) : Option (Nat × UInt8 × UInt8) :=
  if 0xC2 ≤ b && b ≤ 0xDF then some (2, 0x80, 0xBF)
  else if b = 0xE0 then some (3, 0xA0, 0xBF)
  else if b = 0xED then some (3, 0x80, 0x9F)
  else if 0xE1 ≤ b && b ≤ 0xEF then some (3, 0x80, 0xBF)
  else if b = 0xF0 then some (4, 0x90, 0xBF)
  else if b = 0xF4 then some (4, 0x80, 0x8F)
  else if 0xF1 ≤ b && b ≤ 0xF3 then some (4, 0x80, 0xBF)
  else none

/-- What the front of some bytes is. -/
inductive Utf8Front where
  /-- A character of so many bytes. -/
  | character (length : Nat)
  /-- So many bytes that begin no character. -/
  | wrong (length : Nat)
  /-- The beginning of a character, and then the end. -/
  | incomplete
deriving DecidableEq

/-- Looks at the bytes of a character after its first: `missing` of them are to come, and the next lies
between `low` and `high`. `length` bytes have been seen. -/
def utf8Tail (missing length : Nat) (low high : UInt8) : List UInt8 → Utf8Front
  | [] => if missing = 0 then .character length else .incomplete
  | b :: rest =>
    if missing = 0 then .character length
    else if low ≤ b && b ≤ high then utf8Tail (missing - 1) (length + 1) 0x80 0xBF rest
    else .wrong length

/-- What the front of some bytes is; `b` is the first of them. -/
def utf8Front (b : UInt8) (rest : List UInt8) : Utf8Front :=
  if b < 0x80 then .character 1
  else
    match leadByte? b with
    | some (width, low, high) => utf8Tail (width - 1) 1 low high rest
    | none => .wrong 1

/-- Where bytes go wrong. -/
structure Utf8Error where
  /-- The number of bytes in front. -/
  index : Nat
  /-- The number of bytes that are wrong; `none` if the bytes end within a character. -/
  length : Option Nat
deriving DecidableEq

/-- The text of an error. -/
def Utf8Error.message (e : Utf8Error) : String :=
  match e.length with
  | some n => s!"invalid utf-8 sequence of {n} bytes from index {e.index}"
  | none => s!"incomplete utf-8 byte sequence from index {e.index}"

/-- The first place where bytes go wrong, within `bound` characters; `index` bytes lie in front. -/
def utf8ErrorWithin : (bound index : Nat) → List UInt8 → Option Utf8Error
  | 0, _, _ => none
  | _ + 1, _, [] => none
  | bound + 1, index, b :: rest =>
    match utf8Front b rest with
    | .character n => utf8ErrorWithin bound (index + n) ((b :: rest).drop n)
    | .wrong n => some ⟨index, some n⟩
    | .incomplete => some ⟨index, none⟩

/-- The first place where bytes go wrong. -/
def utf8Error? (bytes : List UInt8) : Option Utf8Error := utf8ErrorWithin bytes.length 0 bytes

/-- The bytes with the replacement character for each part of them that is wrong, within `bound` parts. -/
def mendWithin : (bound : Nat) → List UInt8 → List UInt8
  | 0, bytes => bytes
  | _ + 1, [] => []
  | bound + 1, b :: rest =>
    match utf8Front b rest with
    | .character n => (b :: rest).take n ++ mendWithin bound ((b :: rest).drop n)
    | .wrong n => [0xEF, 0xBF, 0xBD] ++ mendWithin bound ((b :: rest).drop n)
    | .incomplete => [0xEF, 0xBF, 0xBD]

/-- The text of bytes, with the replacement character for each part of them that is wrong. -/
def lossyText (bytes : List UInt8) : String :=
  (String.fromUTF8? (ByteArray.mk (mendWithin bytes.length bytes).toArray)).getD ""

end ChunkVault.Text
