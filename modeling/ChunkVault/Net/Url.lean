/-
# ChunkVault.Net.Url -- which texts are URLs, and their parts

A text is a URL if it begins with a scheme and a colon, and what follows two slashes can be understood as
credentials, a host and a port. Paths, queries and fragments are never at fault. A few schemes are
special: they take backslashes for slashes, need a host, and check it as a domain name or an address.
Blanks and control characters around a URL, and tabs and line ends within, are skipped.
-/
import ChunkVault.Idna.Domain
import ChunkVault.Net.Address
import ChunkVault.Text.Percent
import ChunkVault.Text.Utf8

namespace ChunkVault.Net

namespace Url

/-- How a scheme treats what follows it. -/
inductive SchemeKind where
  | file
  /-- With a host that is needed. -/
  | special
  | other
deriving DecidableEq

/-- The kind of a scheme in lower case. -/
def SchemeKind.of (scheme : String) : SchemeKind :=
  if scheme = "file" then .file
  else if scheme ∈ ["http", "https", "ws", "wss", "ftp"] then .special
  else .other

/-- The text without what is skipped. -/
def cleaned (cs : List Char) : List Char :=
  let isEdge (c : Char) : Bool := c ≤ ' '
  let trimmed := ((cs.dropWhile isEdge).reverse.dropWhile isEdge).reverse
  trimmed.filter fun c => c ≠ '\t' ∧ c ≠ '\n' ∧ c ≠ '\r'

/-- A character of a scheme after the first, which is a letter. -/
def isSchemePart (c : Char) : Bool := c.isAlphanum || c = '+' || c = '-' || c = '.'

/-- The scheme in lower case, and the text after its colon. -/
def scheme? (cs : List Char) : Option (String × List Char) :=
  match cs with
  | c :: _ =>
    match cs.dropWhile isSchemePart with
    | ':' :: rest =>
      if c.isAlpha then some (String.ofList ((cs.takeWhile isSchemePart).map Char.toLower), rest)
      else none
    | _ => none
  | [] => none

/-! ## Hosts -/

/-- A character that no host may hold. -/
def isForbidden (c : Char) : Bool :=
  c ∈ ['\x00', '\t', '\n', '\r', ' ', '#', '/', ':', '<', '>', '?', '@', '[', '\\', ']', '^', '|']

/-- A character that no domain name may hold. -/
def isForbiddenInDomain (c : Char) : Bool :=
  isForbidden c || c = '%' || c < ' ' || c = '\x7f'

/-- The base of a number in an address, and its digits. -/
def basedDigits : List Char → Nat × List Char
  | '0' :: x :: rest => if x = 'x' ∨ x = 'X' then (16, rest) else (8, x :: rest)
  | cs => (10, cs)

/-- A number in an address, in base ten, eight or sixteen. -/
def ipv4Number? (cs : List Char) : Option Nat :=
  if cs.isEmpty then none
  else
    let (base, digits) := basedDigits cs
    digits.foldlM (fun n c => ((Text.hexValue? c).filter (· < base)).map (base * n + ·)) 0

/-- The labels of a domain name; a dot at the end has none after it. -/
def labels (domain : List Char) : List (List Char) :=
  let all := Text.parts '.' domain
  if all.getLast? = some [] then all.dropLast else all

/-- Whether the last label of a domain name is a number, so that the name has to be an address. -/
def endsInNumber (domain : List Char) : Bool :=
  match (labels domain).getLast? with
  | none => false
  | some last => (!last.isEmpty && last.all Text.isDigit) || (ipv4Number? last).isSome

/-- Whether labels make up an address of version 4: up to four numbers, of which the last fills all the
places that are left. -/
def isIpv4 (labels : List (List Char)) : Bool :=
  match labels.mapM ipv4Number? with
  | none => false
  | some numbers =>
    match numbers.getLast? with
    | none => false
    | some last =>
      numbers.length ≤ 4 && numbers.dropLast.all (· ≤ 255) && last < Nat.pow 256 (5 - numbers.length)

/-- Whether a text stands in brackets and is an address of version 6 in them. -/
def isBracketed (cs : List Char) : Bool :=
  cs.getLast? = some ']' && (ipv6? (cs.drop 1).dropLast).isSome

/-- Whether a text is a domain name or an address. -/
def isDomain (host : List Char) : Bool :=
  if host.head? = some '[' then isBracketed host
  else
    match (Text.percentDecode? (String.ofList host)).bind fun name => Idna.domain? name.toList with
    | none => false
    | some cs =>
      !cs.isEmpty && !cs.any isForbiddenInDomain && (!endsInNumber cs || isIpv4 (labels cs))

/-- Whether a text is a host for a scheme that asks for nothing special. -/
def isOpaqueHost (host : List Char) : Bool :=
  if host.head? = some '[' then isBracketed host else !host.any isForbidden

/-! ## What follows two slashes -/

/-- What stands between the slashes and the path. -/
structure Authority where
  username : List Char
  password : List Char
  host : List Char
  port : Option Nat
deriving DecidableEq

/-- No host, and nothing around it. -/
def Authority.none : Authority := ⟨[], [], [], Option.none⟩

/-- A character that ends the credentials, host and port. -/
def endsAuthority (isSpecial : Bool) (c : Char) : Bool :=
  c = '/' || c = '?' || c = '#' || (isSpecial && c = '\\')

/-- The text before and after the last at sign. -/
def splitLastAt? (cs : List Char) : Option (List Char × List Char) :=
  (Text.splitAt? '@' cs.reverse).map fun (after, before) => (before.reverse, after.reverse)

/-- The host, and what comes after it: a colon within brackets does not end it. -/
def splitHost : Bool → List Char → List Char × List Char
  | _, [] => ([], [])
  | inBrackets, c :: rest =>
    if c = ':' ∧ !inBrackets then ([], c :: rest)
    else
      let (host, after) := splitHost (c = '[' || (inBrackets && c ≠ ']')) rest
      (c :: host, after)

/-- Reads the port, which may be empty, behind its colon. -/
def port? (cs : List Char) : Option (Option Nat) :=
  let digits := cs.takeWhile Text.isDigit
  let number := Text.ofDigits digits
  if number ≤ Text.maxWord16 ∧ (cs.dropWhile Text.isDigit).head?.all (endsAuthority true) then
    some (if digits.isEmpty then none else some number)
  else none

/-- Reads credentials, host and port; `authority` is the text up to the path. -/
def authority? (isSpecial isFollowed : Bool) (authority : List Char) : Option Authority := do
  let (credentials, rest) := (splitLastAt? authority).getD ([], authority)
  let isAtFirst := authority.head? = some '@' && credentials.isEmpty
  let (host, after) := splitHost false rest
  let isHostFine := if isSpecial then isDomain host else isOpaqueHost host
  let hasCredentials := credentials ≠ [] && credentials ≠ [':']
  let port ← match after with
    | ':' :: digits => if host.isEmpty then none else port? digits
    | _ => some none
  if (isAtFirst && isFollowed && rest.isEmpty) || (host.isEmpty && (isSpecial || hasCredentials)) ||
      !isHostFine then none
  else
    some {
      username := credentials.takeWhile (· ≠ ':')
      password := (credentials.dropWhile (· ≠ ':')).drop 1
      host := host
      port := port }

/-- Reads what follows two slashes, up to the path, and hands on the rest. -/
def afterSlashes? (isSpecial : Bool) (cs : List Char) : Option (Authority × List Char) :=
  let ends := endsAuthority isSpecial
  (authority? isSpecial (cs.any ends) (cs.takeWhile fun c => !ends c)).map fun authority =>
    (authority, cs.dropWhile fun c => !ends c)

/-- A slash of either kind. -/
def isSlash (c : Char) : Bool := c = '/' || c = '\\'

/-- The letter of a drive with its colon, which is no host. -/
def isDrive : List Char → Bool
  | [letter, mark] => letter.isAlpha && (mark = ':' || mark = '|')
  | _ => false

/-- Reads what follows the colon of a file's URL, up to the path. -/
def afterFile? (cs : List Char) : Option (Authority × List Char) :=
  match cs with
  | a :: b :: rest =>
    let host := rest.takeWhile (!endsAuthority true ·)
    let path := rest.dropWhile (!endsAuthority true ·)
    if !(isSlash a && isSlash b) then some (.none, cs)
    else if host.isEmpty || isDrive host then some (.none, rest)
    else if isDomain host then some ({ Authority.none with host := host }, path)
    else none
  | _ => some (.none, cs)

/-! ## Paths -/

/-- A part of a path that stands for the place where it is. -/
def isHere (part : List Char) : Bool :=
  String.ofList (part.map Char.toLower) ∈ [".", "%2e"]

/-- A part of a path that stands for the place above. -/
def isAbove (part : List Char) : Bool :=
  String.ofList (part.map Char.toLower) ∈ ["..", ".%2e", "%2e.", "%2e%2e"]

/-- The parts of a path without those that only say how to go; `kept` are those in front. -/
def resolve (kept : List (List Char)) : List (List Char) → List (List Char)
  | [] => kept
  | [part] =>
    if isAbove part then kept.dropLast ++ [[]] else if isHere part then kept ++ [[]] else kept ++ [part]
  | part :: rest =>
    if isAbove part then resolve kept.dropLast rest
    else if isHere part then resolve kept rest
    else resolve (kept ++ [part]) rest

/-- The path of a URL; one without a slash in front is taken as it is. -/
def pathOf (cs : List Char) : List Char :=
  match cs.takeWhile (· ≠ '?') with
  | '/' :: rest => (resolve [] (Text.parts '/' rest)).flatMap ('/' :: ·)
  | cs => cs

end Url

/-! ## All of it -/

/-- A URL. Its texts are still encoded with percent signs. -/
structure Url where
  /-- In lower case. -/
  scheme : String
  authority : Url.Authority
  path : List Char
  query : List Char
deriving DecidableEq

namespace Url

/-- Reads a URL. -/
def parse? (text : String) : Option Url := do
  let (scheme, rest) ← scheme? (cleaned text.toList)
  let (authority, rest) ← match SchemeKind.of scheme with
    | .file => afterFile? rest
    | .special => afterSlashes? true (rest.dropWhile isSlash)
    | .other =>
      match rest with
      | '/' :: '/' :: rest => afterSlashes? false rest
      | _ => some (.none, rest)
  let rest := rest.takeWhile (· ≠ '#')
  return {
    scheme := scheme
    authority := authority
    path := pathOf rest
    query := (rest.dropWhile (· ≠ '?')).drop 1 }

/-- The names and values in the query. -/
def parameters (url : Url) : List (String × String) :=
  let decoded (cs : List Char) : String :=
    Text.lossyText (Text.percentBytes (cs.map fun c => if c = '+' then ' ' else c))
  ((Text.parts '&' url.query).filter fun part => !part.isEmpty).map fun part =>
    (decoded (part.takeWhile (· ≠ '=')), decoded ((part.dropWhile (· ≠ '=')).drop 1))

end Url
end ChunkVault.Net
