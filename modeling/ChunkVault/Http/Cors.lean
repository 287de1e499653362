/-
# ChunkVault.Http.Cors -- answers for pages of any origin

Every origin may ask for anything, with credentials: the origin, the method and the headers that a
request announces are handed back as allowed.
-/
import ChunkVault.Http.Message

namespace ChunkVault.Http.Cors

/-- The headers that every response carries. -/
def always : List (String × String) :=
  [("access-control-allow-credentials", "true"),
    ("vary", "origin, access-control-request-method, access-control-request-headers")]

/-- A header of the request, handed back under another name. -/
def handBack (r : Request) (asked allowed : String) : List (String × String) :=
  match r.header? asked with
  | some value => [(allowed, value)]
  | none => []

/-- The headers that any response to this request carries. -/
def headers (r : Request) : List (String × String) :=
  always ++ handBack r "origin" "access-control-allow-origin"

/-- The response to a request that asks what it would be allowed to do. -/
def preflight (r : Request) : Response :=
  (Response.empty 200).withHeaders
    (headers r ++
      handBack r "access-control-request-method" "access-control-allow-methods" ++
      handBack r "access-control-request-headers" "access-control-allow-headers")

end ChunkVault.Http.Cors
