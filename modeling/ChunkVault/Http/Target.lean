/-
# ChunkVault.Http.Target -- what a request asks for

A target is a path with an optional query, a full address, a host alone, or an asterisk. What comes after a
number sign is cut off. A target that fits none of these forms, or is too long, cannot be asked for.

The host of an address may have a name and a password before it and a port behind it, and brackets in it
for a numeric address. Percent signs belong into the name and the password, or into the brackets.
-/

namespace ChunkVault.Http

/-- The greatest number of bytes of a target. -/
def targetLimit : Nat := 65534

/-! ## Paths -/

/-- A character that may stand in the path of a target. -/
def isPathChar (c : Char) : Bool :=
  let n := c.toNat
  n = 0x21 || n = 0x22 || (0x24 ≤ n && n ≤ 0x3B) || n = 0x3D || (0x40 ≤ n && n ≤ 0x5F) ||
    (0x61 ≤ n && n ≤ 0x7E) || 0x80 ≤ n

/-- A character that may stand in the query of a target. -/
def isQueryChar (c : Char) : Bool :=
  let n := c.toNat
  n = 0x21 || (0x24 ≤ n && n ≤ 0x3B) || n = 0x3D || (0x3F ≤ n && n ≤ 0x7E) || 0x80 ≤ n

/-- The path in a target that begins with one, or with the query behind it. -/
def pathOf? (target : List Char) : Option (List Char) :=
  let whole := target.takeWhile (· ≠ '#')
  let path := whole.takeWhile (· ≠ '?')
  let query := (whole.dropWhile (· ≠ '?')).drop 1
  if path.all isPathChar && query.all isQueryChar then some path else none

/-! ## Hosts -/

/-- A character that may stand in the host part of an address. -/
def isHostChar (c : Char) : Bool :=
  c.isAlphanum || c ∈ "!$%&()*+,-.:;=@[]_~".toList || c = '\''

/-- What was seen of a host part. -/
structure HostScan where
  /-- The colons since the last at sign or the closing bracket. -/
  colons : Nat
  isOpened : Bool
  isClosed : Bool
  /-- Whether a percent sign stands where neither an at sign nor the closing bracket has followed. -/
  hasPercent : Bool
deriving DecidableEq

namespace HostScan

/-- Nothing seen yet. -/
def start : HostScan := ⟨0, false, false, false⟩

/-- One more character. There are never more than eight colons in a row of parts, and one pair of
brackets. -/
def step (s : HostScan) (c : Char) : Option HostScan :=
  match c with
  | ':' => if s.colons < 8 then some { s with colons := s.colons + 1 } else none
  | '[' => if s.hasPercent || s.isOpened then none else some { s with isOpened := true }
  | ']' =>
    if s.isOpened && !s.isClosed then
      some { s with isClosed := true, colons := 0, hasPercent := false }
    else none
  | '@' => some { s with colons := 0, hasPercent := false }
  | '%' => some { s with hasPercent := true }
  | _ => if isHostChar c then some s else none

/-- Whether a host part may end here: behind the host stands at most one colon. -/
def isComplete (s : HostScan) : Bool := s.isOpened = s.isClosed && s.colons ≤ 1 && !s.hasPercent

end HostScan

/-- Whether a text may stand as the host part of an address. -/
def isHostPart (host : List Char) : Bool :=
  host.getLast? ≠ some '@' && (host.foldlM HostScan.step HostScan.start).any HostScan.isComplete

/-! ## Targets -/

/-- A character of a scheme. -/
def isSchemeChar (c : Char) : Bool := c.isAlphanum || c ∈ ['+', '-', '.', '~']

/-- The greatest length of a scheme. -/
def schemeLimit : Nat := 64

/-- The scheme of a full address, and what comes after its two slashes. -/
def splitScheme? (target : List Char) : Option (List Char × List Char) :=
  match target.dropWhile isSchemeChar with
  | ':' :: '/' :: '/' :: rest => some (target.takeWhile isSchemeChar, rest)
  | _ => none

/-- The path in a full address: what follows the host, or the root if nothing does. -/
def addressPath? (rest : List Char) : Option (List Char) :=
  let isEnd (c : Char) : Bool := c = '/' || c = '?' || c = '#'
  let host := rest.takeWhile (!isEnd ·)
  if host.isEmpty || !isHostPart host then none
  else
    (pathOf? (rest.dropWhile (!isEnd ·))).map fun path => if path.isEmpty then ['/'] else path

/-- The path that a target asks for. A host alone asks for none. -/
def targetPath? (target : String) : Option String :=
  if targetLimit < target.utf8ByteSize then none
  else
    let path : Option (List Char) := match target.toList with
      | [] => none
      | ['*'] => some ['*']
      | '/' :: rest => pathOf? ('/' :: rest)
      | cs =>
        match splitScheme? cs with
        | some (scheme, rest) => if scheme.length ≤ schemeLimit then addressPath? rest else none
        | none => if isHostPart cs then some [] else none
    path.map String.ofList

end ChunkVault.Http
