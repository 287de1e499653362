/-
# ChunkVault.Http.ApiError -- failures as a client sees them

A failure has a status and a text, and is sent as `error` in an object. What goes wrong inside of the
store is nobody's business outside: it is sent as a failure of the server without any cause.
-/
import ChunkVault.Http.Message
import ChunkVault.Text.Quoted

namespace ChunkVault.Http

/-- A failure as a client sees it. -/
structure ApiError where
  status : Nat
  message : String
deriving DecidableEq

namespace ApiError

/-- The client asked for something that makes no sense. -/
def badRequest (message : String) : ApiError := ⟨400, message⟩

/-- The server failed. -/
def internal : ApiError := ⟨500, "Internal Server Error"⟩

/-- A failure of the storage engine. -/
def ofStorage (e : StorageError) : ApiError :=
  match e with
  | .notFound => ⟨404, "not found"⟩
  | .invalidPosition | .unexpectedWhence _ => badRequest e.message
  | .cancelled => ⟨408, "request cancelled"⟩
  | .endOfStream | .closedResource | .unknown .. => internal

/-- The text of the body. -/
def body (e : ApiError) : String := Text.jsonObject [("error", Text.jsonString e.message)]

/-- The response to be sent. -/
def response (e : ApiError) : Response := .json e.status e.body

end ApiError
end ChunkVault.Http
