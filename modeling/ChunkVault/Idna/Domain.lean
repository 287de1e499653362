/-
# ChunkVault.Idna.Domain -- domain names beyond ASCII

A domain name is mapped, composed and cut into labels at its points. A label that is encoded in ASCII is
decoded, and has to be one that mapping and composing leave as it is. No label begins with a mark, and
joiners and directions have to be in order. ASCII itself is not looked at: which of its characters a name
may hold is for others to say.
-/
import ChunkVault.Idna.Direction
import ChunkVault.Idna.Joining
import ChunkVault.Idna.Punycode

namespace ChunkVault.Idna

/-- Whether a text is of ASCII alone. -/
def isAscii (cs : List Char) : Bool := cs.all fun c => c.toNat < 0x80

/-- The longest label that can be encoded. -/
def maxDecoded : Nat := 1000

/-- The longest encoded label that can be decoded, without its mark. -/
def maxEncoded : Nat := 2000

/-- Whether a label begins as one that is encoded. -/
def isEncoded (label : List Char) : Bool := "xn--".toList.isPrefixOf label

/-- Whether a label that is not encoded is in order by itself. -/
def isProperLabel (label : List Char) : Bool :=
  !label.head?.any Text.isMark && allowsJoiners [] label &&
    (isAscii label || label.length ≤ maxDecoded)

/-- The text of an encoded label. One that stands for ASCII alone need not have been encoded. -/
def decoded? (label : List Char) : Option (List Char) := do
  let code := label.drop 4
  if !isAscii code || maxEncoded < code.length then none
  let text ← Punycode.decode? code
  if isAscii text || isEncoded text || !text.all isKept || compose text ≠ text then none
  return text

/-- The text of a label. -/
def label? (label : List Char) : Option (List Char) := do
  let text ← if isEncoded label then decoded? label else some label
  if isProperLabel text then some text else none

/-- The labels of a domain name. -/
def labels? (name : List Char) : Option (List (List Char)) := do
  let mapped ← name.mapM image?
  let labels ← (Text.parts '.' (compose mapped.flatten)).mapM label?
  if labels.flatten.any (Direction.of · |>.isRightward) && !labels.all Direction.isProper then none
  return labels

/-- The text that a domain name stands for. -/
def domain? (name : List Char) : Option (List Char) :=
  (labels? name).map fun labels => List.intercalate ['.'] labels

end ChunkVault.Idna
