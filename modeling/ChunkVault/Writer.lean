/-
# ChunkVault.Writer -- a source becomes the rows of a new file

The writer inserts a file row, takes the source fill by fill into chunk rows, and then notes the size
and the order of the chunks. It works inside of a transaction that its caller opens and closes.
-/
import ChunkVault.Program
import ChunkVault.Source

namespace ChunkVault

/-- What an upload has written so far: its size, and its chunks in order. The size is kept in 64 bits with a
sign, which hold it exactly as long as the source delivers fewer than 2 ^ 63 bytes; it is a number without a
bound here. -/
structure Written where
  size : Int
  chunkIds : List Uuid
deriving DecidableEq

namespace Written

/-- Nothing yet. -/
def empty : Written := ⟨0, []⟩

/-- One more chunk, of `length` bytes. -/
def add (w : Written) (id : Uuid) (length : Nat) : Written := ⟨w.size + length, w.chunkIds ++ [id]⟩

end Written

namespace Program

/-- Waits out the pauses of a fill. A token that fires in the meantime ends the wait. -/
def waitOut (token : Token) : List (List String) → Program (Except StorageError Unit)
  | [] => return .ok ()
  | fires :: pauses => do
    fire fires
    if ← fired token then return .error .cancelled
    waitOut token pauses

/-- Takes one fill from a source unless the token fires first. A fill that stalls is waited for until the
token fires. -/
def pull (token : Token) (fill : Fill) : Program (Except StorageError Bytes) := do
  if ← fired token then return .error .cancelled
  match ← waitOut token fill.pauses with
  | .error e => return .error e
  | .ok () =>
    fire fill.fires
    match fill.result with
    | .filled content => return .ok content
    | .failed error => return .error (.unknown "file read" [error.message])
    | .stalled =>
      wait token
      return .error .cancelled

end Program

open Program

/-- Writes one chunk row for every fill that holds bytes; a fill that is no whole chunk is the last. -/
def writeChunks (token : Token) (tx : TxId) (file : Uuid) :
    List Fill → Written → Program (Except StorageError Written)
  | [], written => return .ok written
  | fill :: rest, written => do
    match ← pull token fill with
    | .error e => return .error e
    | .ok content =>
      if content.isEmpty then return .ok written
      else
        match ← race token (.insertChunk tx file content) with
        | .error e => return .error e
        | .ok id =>
          let written := written.add id content.length
          if content.length < chunkSize then return .ok written
          else writeChunks token tx file rest written

/-- Writes a whole file inside of a transaction, and answers with its id. -/
def writeFile (token : Token) (tx : TxId) (source : Source) : Program (Except StorageError Uuid) := do
  match ← race token (.insertFile tx) with
  | .error e => return .error e
  | .ok file =>
    match ← writeChunks token tx file source.fills .empty with
    | .error e => return .error e
    | .ok written =>
      match ← race token (.finishFile tx file written.size written.chunkIds) with
      | .error e => return .error e
      | .ok () => return .ok file

end ChunkVault
