/-
# ChunkVault.StorageError -- what can go wrong in the storage engine

Six named conditions, and `unknown`, which carries the chain of causes that led to it: the context
first, the root cause last. A reader latches one of these values and hands it back on every later
call, so they are plain data.
-/

namespace ChunkVault

/-- The kind of an input or output failure, as far as the engine looks at it. -/
inductive IoKind where
  | notFound
  | invalidInput
  | unexpectedEof
  | interrupted
  | other
deriving DecidableEq

/-- A failed input or output call. -/
structure IoError where
  kind : IoKind
  message : String
deriving DecidableEq

/-- The errors of the storage engine and its chunk reader. -/
inductive StorageError where
  | notFound
  | invalidPosition
  | unexpectedWhence (origin : Int)
  | closedResource
  | endOfStream
  | cancelled
  /-- Any other failure: what was being done, and the texts of its causes, outermost first. -/
  | unknown (context : String) (causes : List String)
deriving DecidableEq, Inhabited

namespace StorageError

/-- The text of an error. -/
def message : StorageError → String
  | notFound => "not found"
  | invalidPosition => "invalid position: resulting offset is negative"
  | unexpectedWhence origin => s!"unexpected whence: {origin}"
  | closedResource => "resource already closed"
  | endOfStream => "end of stream"
  | cancelled => "operation cancelled"
  | unknown context causes => String.intercalate ": " ("unknown" :: context :: causes)

/-- The stable number of an error. -/
def code : StorageError → Nat
  | notFound => 2001
  | invalidPosition => 2002
  | unexpectedWhence _ => 2003
  | closedResource => 2004
  | endOfStream => 2005
  | cancelled => 2006
  | unknown .. => 2100

/-- The texts of the cause chain, the context first; only an `unknown` error has one. -/
def chain? : StorageError → Option (List String)
  | unknown context causes => some (context :: causes)
  | _ => none

/-- Whether the error says only that there is nothing left to read. -/
def isEndOfStream (e : StorageError) : Bool := e = endOfStream

/-- Collapses every error but a cancellation into `unknown`: its text becomes the one cause. -/
def intoUnknown (context : String) (e : StorageError) : StorageError :=
  match e with
  | unknown .. | cancelled => e
  | other => unknown context [other.message]

/-- The error as a failed input or output call reports it. -/
def toIo (e : StorageError) : IoError where
  kind := match e with
    | notFound => .notFound
    | invalidPosition | unexpectedWhence _ => .invalidInput
    | endOfStream => .unexpectedEof
    | cancelled => .interrupted
    | closedResource | unknown .. => .other
  message := e.message

end StorageError
end ChunkVault
