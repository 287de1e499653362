/-
# ChunkVault.Request -- what the storage engine asks of a store

The engine reaches its store through eleven calls. Seven of them belong to a transaction, whose writes
stay unseen until it is committed. Reads outside of a transaction are point queries: each one sees
whatever is committed at that moment.
-/
import ChunkVault.Record
import ChunkVault.StorageError

namespace ChunkVault

/-- The name that a store gives to an open transaction. -/
abbrev TxId := Nat

/-- A call to the store. -/
inductive Request where
  | begin
  | insertFile (tx : TxId)
  | insertChunk (tx : TxId) (file : Uuid) (bytes : Bytes)
  | finishFile (tx : TxId) (file : Uuid) (size : Int) (chunks : List Uuid)
  | deleteChunks (tx : TxId) (file : Uuid)
  | deleteFile (tx : TxId) (file : Uuid)
  | commit (tx : TxId)
  | rollback (tx : TxId)
  | findFile (id : Uuid)
  | findChunk (id : Uuid)
  | updateMetadata (id : Uuid) (data : Option Bytes)

namespace Request

/-- What a call gives back when it succeeds; a count is the number of rows touched. -/
@[reducible] def Reply : Request → Type
  | begin => TxId
  | insertFile _ | insertChunk .. => Uuid
  | finishFile .. | commit _ | rollback _ => Unit
  | deleteChunks .. | deleteFile .. | updateMetadata .. => Nat
  | findFile _ => Option FileRecord
  | findChunk _ => Option Bytes

/-- What a finished call gives back. -/
@[reducible] def Outcome (q : Request) : Type := Except StorageError q.Reply

/-- The transaction that a call closes, whether or not it succeeds. -/
def closes? : Request → Option TxId
  | commit tx | rollback tx => some tx
  | _ => none

end Request

/-- The kinds of calls, without their arguments. -/
inductive CallKind where
  | begin
  | insertFile
  | insertChunk
  | finishFile
  | deleteChunks
  | deleteFile
  | commit
  | rollback
  | findFile
  | findChunk
  | updateMetadata
deriving DecidableEq

/-- The kind of a call. -/
def Request.kind : Request → CallKind
  | begin => .begin
  | insertFile _ => .insertFile
  | insertChunk .. => .insertChunk
  | finishFile .. => .finishFile
  | deleteChunks .. => .deleteChunks
  | deleteFile .. => .deleteFile
  | commit _ => .commit
  | rollback _ => .rollback
  | findFile _ => .findFile
  | findChunk _ => .findChunk
  | updateMetadata .. => .updateMetadata

end ChunkVault
