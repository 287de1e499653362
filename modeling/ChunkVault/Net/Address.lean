/-
# ChunkVault.Net.Address -- numeric internet addresses, with and without a port

An address of version 4 is four numbers of at most 255 without leading zeros. One of version 6 is eight
groups of up to four hexadecimal digits; two colons stand for one or more groups of zero, once, and the
last two groups may be written as an address of version 4. Host names are no addresses.
-/
import ChunkVault.Text.Decimal
import ChunkVault.Text.Hex
import ChunkVault.Text.Parts

namespace ChunkVault.Net

/-- One of the four numbers of an address of version 4. -/
def octet? (cs : List Char) : Option Nat :=
  if 3 < cs.length ∨ (1 < cs.length ∧ cs.head? = some '0') then none
  else (Text.digits? cs).filter (· ≤ 255)

/-- The four numbers of an address of version 4. -/
def ipv4? (cs : List Char) : Option (List Nat) :=
  let octets := Text.parts '.' cs
  if octets.length = 4 then octets.mapM octet? else none

/-- One group of an address of version 6. -/
def group? (cs : List Char) : Option Nat :=
  if cs.isEmpty ∨ 4 < cs.length then none else Text.ofHex? cs

/-- The groups that some parts stand for; the last part may stand for two. -/
def groupsOf? (allowsIpv4 : Bool) : List (List Char) → Option (List Nat)
  | [] => some []
  | [part] =>
    match group? part with
    | some g => some [g]
    | none =>
      if allowsIpv4 then
        match ipv4? part with
        | some [a, b, c, d] => some [256 * a + b, 256 * c + d]
        | _ => none
      else none
  | part :: others => do
    let g ← group? part
    let more ← groupsOf? allowsIpv4 others
    return g :: more

/-- The groups of a text between colons; an empty text has none. -/
def groups? (allowsIpv4 : Bool) (cs : List Char) : Option (List Nat) :=
  if cs.isEmpty then some [] else groupsOf? allowsIpv4 (Text.parts ':' cs)

/-- The text before and after the first two colons. -/
def splitGap? : List Char → Option (List Char × List Char)
  | ':' :: ':' :: rest => some ([], rest)
  | c :: rest => (splitGap? rest).map fun (before, after) => (c :: before, after)
  | [] => none

/-- The eight groups of an address of version 6. -/
def ipv6? (cs : List Char) : Option (List Nat) :=
  match splitGap? cs with
  | none => (groups? true cs).filter fun groups => groups.length = 8
  | some (before, after) => do
    let front ← groups? false before
    let back ← groups? true after
    let known := front.length + back.length
    if known ≤ 7 then some (front ++ List.replicate (8 - known) 0 ++ back) else none

/-- An address with a port. -/
inductive SocketAddress where
  | v4 (octets : List Nat) (port : Nat)
  | v6 (groups : List Nat) (scopeId : Nat) (port : Nat)
deriving DecidableEq

namespace SocketAddress

/-- A port. -/
def port? (cs : List Char) : Option Nat := (Text.digits? cs).filter (· ≤ Text.maxWord16)

/-- What stands in the brackets of an address of version 6: the groups, and after a percent sign the
number of a scope. -/
def scoped? (cs : List Char) : Option (List Nat × Nat) :=
  match Text.splitAt? '%' cs with
  | none => (ipv6? cs).map fun groups => (groups, 0)
  | some (address, scope) => do
    let groups ← ipv6? address
    let scopeId ← (Text.digits? scope).filter (· ≤ Text.maxWord32)
    return (groups, scopeId)

/-- Reads an address, a colon and a port; an address of version 6 stands in brackets. -/
def parse? (text : String) : Option SocketAddress :=
  match text.toList with
  | '[' :: rest => do
    let (inside, after) ← Text.splitAt? ']' rest
    let (groups, scopeId) ← scoped? inside
    match after with
    | ':' :: digits => (port? digits).map (v6 groups scopeId)
    | _ => none
  | cs => do
    let (address, digits) ← Text.splitAt? ':' cs
    let octets ← ipv4? address
    (port? digits).map (v4 octets)

end SocketAddress
end ChunkVault.Net
