/-
# ChunkVault.Http.Route -- the paths that are served, and their methods
-/

namespace ChunkVault.Http

/-- A path that is served. Ids are as they stand in the path, not yet decoded. -/
inductive Route where
  | health
  | metrics
  | files
  | file (id : String)
  | info (id : String)
  | metadata (id : String)
deriving DecidableEq

/-- The methods that some route answers to. -/
inductive Verb where
  | get
  | head
  | post
  | put
  | delete
deriving DecidableEq

namespace Verb

/-- The name of a method; names are in upper case and no other spelling counts. -/
def name : Verb → String
  | get => "GET"
  | head => "HEAD"
  | post => "POST"
  | put => "PUT"
  | delete => "DELETE"

/-- The method of this name. -/
def ofName? (s : String) : Option Verb := [get, head, post, put, delete].find? (·.name = s)

end Verb

namespace Route

/-- The route for what follows `/files/`. An id alone may not be empty; one with a part behind it may. -/
def ofFilePath? (rest : List Char) : Option Route :=
  let id := rest.takeWhile (· ≠ '/')
  let part := rest.dropWhile (· ≠ '/')
  if part.isEmpty then
    if id.isEmpty then none else some (file (String.ofList id))
  else if part = "/info".toList then some (info (String.ofList id))
  else if part = "/metadata".toList then some (metadata (String.ofList id))
  else none

/-- The route for a path. -/
def ofPath? (path : String) : Option Route :=
  if path = "/health" then some health
  else if path = "/metrics" then some metrics
  else if path = "/files" then some files
  else if "/files/".toList.isPrefixOf path.toList then ofFilePath? (path.toList.drop 7)
  else none

/-- The methods that a route answers to. -/
def verbs : Route → List Verb
  | health | metrics | info _ => [.get, .head]
  | file _ => [.get, .head, .delete]
  | files => [.post]
  | metadata _ => [.put]

/-- The value of the `allow` header. -/
def allow (r : Route) : String := String.intercalate "," (r.verbs.map (·.name))

end Route
end ChunkVault.Http
