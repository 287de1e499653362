/-
# ChunkVault.Memory.Store -- a store in memory

The store for tests and local runs. Its switches make single calls fail, so that what follows from a
failure can be watched.
-/
import ChunkVault.Memory.Transaction
import ChunkVault.Request

namespace ChunkVault.Memory

/-- The switches of a store. -/
structure Faults where
  /-- The chunk insert, counted from 0, that fails in every transaction. -/
  insertAt : Option Nat
  commits : Bool
  fetches : Bool
  /-- The token that the next commit fires before it applies anything. -/
  fireInCommit : Option String
deriving DecidableEq

/-- All switches off. -/
def Faults.none : Faults := ⟨.none, false, false, .none⟩

/-- A store in memory. -/
structure Store where
  tables : Tables
  /-- The open transactions, the latest first. -/
  active : List (TxId × Transaction)
  nextTx : TxId
  /-- How many ids the store has issued. -/
  issued : Nat
  /-- The store's own clock. -/
  clock : Nat
  faults : Faults
  /-- Fetches served, whether or not they found anything. -/
  fetches : Nat
  /-- Chunk inserts accepted by any transaction, committed or not. -/
  inserts : Nat
deriving DecidableEq

namespace Store

/-- A store without rows. -/
def empty : Store where
  tables := .empty
  active := []
  nextTx := 0
  issued := 0
  clock := 0
  faults := .none
  fetches := 0
  inserts := 0

/-! ## Open transactions -/

/-- The open transaction of this name. -/
def transaction (s : Store) (tx : TxId) : Transaction :=
  match s.active.find? (·.1 = tx) with
  | some (_, t) => t
  | none => .empty

/-- Puts a transaction in the place of the one of this name. -/
def keep (s : Store) (tx : TxId) (t : Transaction) : Store :=
  { s with active := s.active.map fun entry => if entry.1 = tx then (tx, t) else entry }

/-- Forgets a transaction and the writes that wait in it. -/
def discard (s : Store) (tx : TxId) : Store :=
  { s with active := s.active.filter (·.1 ≠ tx) }

/-- Adds a write to those that wait in a transaction. -/
def push (s : Store) (tx : TxId) (w : Write) : Store := s.keep tx ((s.transaction tx).push w)

/-- The stamp of this moment. -/
def now (s : Store) : Timestamp := .tick s.clock

/-! ## Requests -/

/-- Opens a transaction. -/
def begin (s : Store) : TxId × Store :=
  (s.nextTx, { s with active := (s.nextTx, .empty) :: s.active, nextTx := s.nextTx + 1 })

/-- Inserts an empty file under a fresh id. -/
def insertFile (s : Store) (tx : TxId) : Uuid × Store :=
  let id := Uuid.issue s.issued
  let file : FileRecord :=
    { id := id, size := 0, chunkIds := [], metadata := none, createdAt := s.now, updatedAt := s.now }
  (id, { s.push tx (.insertFile file) with issued := s.issued + 1, clock := s.clock + 1 })

/-- Inserts a chunk under a fresh id. The transaction has to see the file that owns it. -/
def insertChunk (s : Store) (tx : TxId) (file : Uuid) (bytes : Bytes) :
    Except StorageError Uuid × Store :=
  let t := s.transaction tx
  let s := s.keep tx { t with inserts := t.inserts + 1 }
  if s.faults.insertAt = some t.inserts then
    (.error (.unknown "save file chunk" ["injected insert failure"]), s)
  else if t.fileVisible s.tables file then
    let id := Uuid.issue s.issued
    (.ok id,
      { s.push tx (.insertChunk ⟨id, file, bytes⟩) with
        issued := s.issued + 1, inserts := s.inserts + 1 })
  else
    let name := file.text
    (.error (.unknown "save file chunk" [s!"foreign key violation: file {name}"]), s)

/-- Notes the size of a file and the order of its chunks. -/
def finishFile (s : Store) (tx : TxId) (file : Uuid) (size : Int) (chunks : List Uuid) :
    Except StorageError Unit × Store :=
  if (s.transaction tx).fileVisible s.tables file then
    (.ok (), s.push tx (.finishFile file size chunks))
  else (.error .notFound, s)

/-- Deletes the chunks of a file, and answers how many the transaction saw. -/
def deleteChunks (s : Store) (tx : TxId) (file : Uuid) : Nat × Store :=
  ((s.transaction tx).chunksVisible s.tables file, s.push tx (.deleteChunks file))

/-- Deletes a file, and answers how many the transaction saw: one or none. -/
def deleteFile (s : Store) (tx : TxId) (file : Uuid) : Nat × Store :=
  (if (s.transaction tx).fileVisible s.tables file then 1 else 0, s.push tx (.deleteFile file))

/-- Applies the writes of a transaction. -/
def commit (s : Store) (tx : TxId) : Except StorageError Unit × Store :=
  if s.faults.commits then
    (.error (.unknown "commit" ["injected commit failure"]), s.discard tx)
  else
    (.ok (),
      { s.discard tx with
        tables := (s.transaction tx).apply s.now s.tables
        clock := s.clock + 1
        faults := { s.faults with fireInCommit := none } })

/-- Fetches the bytes of a chunk. -/
def findChunk (s : Store) (id : Uuid) : Except StorageError (Option Bytes) × Store :=
  let s := { s with fetches := s.fetches + 1 }
  if s.faults.fetches then (.error (.unknown "find chunk" ["injected fetch failure"]), s)
  else (.ok ((s.tables.chunk? id).map (·.bytes)), s)

/-- Replaces the metadata of a file, outside of any transaction. -/
def updateMetadata (s : Store) (id : Uuid) (data : Option Bytes) : Nat × Store :=
  if s.tables.hasFile id then
    (1, { s with tables := s.tables.setMetadata s.now id data, clock := s.clock + 1 })
  else (0, s)

/-- Serves a call. -/
def serve (q : Request) (s : Store) : q.Outcome × Store :=
  match q with
  | .begin => let (tx, s) := s.begin; (.ok tx, s)
  | .insertFile tx => let (id, s) := s.insertFile tx; (.ok id, s)
  | .insertChunk tx file bytes => s.insertChunk tx file bytes
  | .finishFile tx file size chunks => s.finishFile tx file size chunks
  | .deleteChunks tx file => let (rows, s) := s.deleteChunks tx file; (.ok rows, s)
  | .deleteFile tx file => let (rows, s) := s.deleteFile tx file; (.ok rows, s)
  | .commit tx => s.commit tx
  | .rollback tx => (.ok (), s.discard tx)
  | .findFile id => (.ok (s.tables.file? id), s)
  | .findChunk id => s.findChunk id
  | .updateMetadata id data => let (rows, s) := s.updateMetadata id data; (.ok rows, s)

/-- The tokens that fire while a call is served. -/
def fires (s : Store) : Request → List String
  | .commit _ => if s.faults.commits then [] else s.faults.fireInCommit.toList
  | _ => []

end Store
end ChunkVault.Memory
