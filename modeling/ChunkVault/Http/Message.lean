/-
# ChunkVault.Http.Message -- requests and responses

A request is built from texts, and cannot be built from all of them: its method and the names of its
headers are tokens, its header values hold no control characters, and its target has to be one.
-/
import ChunkVault.Http.Target
import ChunkVault.Reader
import ChunkVault.Source

namespace ChunkVault.Http

/-! ## Requests -/

/-- A letter or digit, or one of the marks that a token may hold. -/
def isTokenChar (c : Char) : Bool :=
  c.isAlphanum || c ∈ "!#$%&*+-.^_|~".toList || c.toNat = 0x27 || c.toNat = 0x60

/-- A token: one such character or more. -/
def isToken (s : String) : Bool := !s.isEmpty && s.toList.all isTokenChar

/-- A header value holds no control characters but the tab. -/
def isHeaderValue (s : String) : Bool :=
  s.toList.all fun c => c = '\t' || (32 ≤ c.toNat && c.toNat ≠ 127)

/-- Visible ASCII, blanks and tabs. -/
def isVisibleAscii (s : String) : Bool :=
  s.toList.all fun c => c = '\t' || (32 ≤ c.toNat && c.toNat < 127)

/-- A request. -/
structure Request where
  method : String
  path : String
  /-- The headers; the names are in lower case. -/
  headers : List (String × String)
  body : Source

namespace Request

/-- Builds a request, unless one of its texts cannot stand in one. -/
def build? (method target : String) (headers : List (String × String)) (body : Source) :
    Option Request :=
  if isToken method && headers.all (fun (name, value) => isToken name && isHeaderValue value) then
    (targetPath? target).map fun path =>
      ⟨method, path, headers.map fun (name, value) => (name.toLower, value), body⟩
  else none

/-- The first header of this name. -/
def header? (r : Request) (name : String) : Option String := r.headers.lookup name

end Request

/-! ## Responses -/

/-- The body of a response. -/
inductive Body where
  | text (content : String)
  /-- Content that is fetched while it is sent. -/
  | stream (content : Reader.Stream)
  /-- The counters, as they stand when they are asked for. -/
  | counters

/-- A response. -/
structure Response where
  status : Nat
  headers : List (String × String)
  body : Body

namespace Response

/-- Adds headers. -/
def withHeaders (r : Response) (more : List (String × String)) : Response :=
  { r with headers := r.headers ++ more }

/-- A response without a body. -/
def empty (status : Nat) : Response := ⟨status, [("content-length", "0")], .text ""⟩

/-- A response that is all text. -/
def ofText (status : Nat) (type content : String) : Response where
  status := status
  headers := [("content-type", type), ("content-length", toString content.utf8ByteSize)]
  body := .text content

/-- A response of JSON. -/
def json (status : Nat) (content : String) : Response := ofText status "application/json" content

/-- A response of plain text. -/
def plain (status : Nat) (content : String) : Response :=
  ofText status "text/plain; charset=utf-8" content

/-- The response without its body; the headers stay. -/
def withoutBody (r : Response) : Response := { r with body := .text "" }

end Response
end ChunkVault.Http
