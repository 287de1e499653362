/-
# ChunkVault.Storage -- saving, opening, annotating and deleting files

The four operations that the engine offers over any store. Each is counted under its own method. A save
and a delete are one transaction each: it is committed when every step succeeded and rolled back
otherwise, and the error that is reported is that of the step which failed, not that of the rollback.
-/
import ChunkVault.Writer
import ChunkVault.Reader

namespace ChunkVault

/-- An open file: what a caller sees of it, and a reader at its front. -/
structure StoredFile where
  info : FileInfo
  reader : Reader
deriving DecidableEq

namespace Storage

open Program

/-- Rolls a transaction back; a failure to do so is of no consequence to the caller. -/
def abandon (tx : TxId) : Program Unit := do
  let _ ← call (.rollback tx)

/-- Commits a transaction and answers with `value`. -/
def settle {α : Type} (tx : TxId) (value : α) : Program (Except StorageError α) := do
  match ← call (.commit tx) with
  | .ok () => return .ok value
  | .error e => return .error (e.intoUnknown "commit")

/-- Keeps the content of a source as a new file. Until the commit has begun a token that fires undoes
everything; once it has begun, its own outcome is what the caller sees. -/
def save (token : Token) (source : Source) : Program (Except StorageError Uuid) :=
  counted .save do
    match ← race token .begin with
    | .error e => return .error (e.intoUnknown "begin tx")
    | .ok tx =>
      match ← writeFile token tx source with
      | .error e =>
        abandon tx
        return .error (e.intoUnknown "save")
      | .ok file =>
        if ← fired token then
          abandon tx
          return .error .cancelled
        else settle tx file

/-- Opens a file. The token also gives up the fetches of the reader. -/
def «open» (token : Token) (id : Uuid) : Program (Except StorageError StoredFile) :=
  counted .open do
    match ← race token (.findFile id) with
    | .error e => return .error e
    | .ok none => return .error .notFound
    | .ok (some file) => return .ok ⟨file.info, .new token file.size file.chunkIds⟩

/-- Replaces the metadata of a file. -/
def setMetadata (id : Uuid) (data : Bytes) : Program (Except StorageError Unit) :=
  counted .setMetadata do
    match ← call (.updateMetadata id (some data)) with
    | .error e => return .error (e.intoUnknown "update metadata")
    | .ok rows => if rows = 0 then return .error .notFound else return .ok ()

/-- Removes the chunks of a file, and then the file. -/
def removeRows (tx : TxId) (id : Uuid) : Program (Except StorageError Unit) := do
  match ← call (.deleteChunks tx id) with
  | .error e => return .error e
  | .ok _ =>
    match ← call (.deleteFile tx id) with
    | .error e => return .error e
    | .ok _ => return .ok ()

/-- Removes a file and its chunks. It is no error if there is no such file. -/
def delete (id : Uuid) : Program (Except StorageError Unit) :=
  counted .delete do
    match ← call .begin with
    | .error e => return .error (e.intoUnknown "begin tx")
    | .ok tx =>
      match ← removeRows tx id with
      | .error e =>
        abandon tx
        return .error (e.intoUnknown "delete")
      | .ok () => settle tx ()

end Storage
end ChunkVault
