/-
# ChunkVault.Sql.Store -- a store over a database

Every request is one operation on rows, or the beginning or end of a transaction. The store
issues the ids of the rows itself, whether or not their insert succeeds.
-/
import ChunkVault.Sql.Entity

namespace ChunkVault.Sql

/-- A store over a database with states of type `δ`. -/
structure Store (δ : Type) where
  db : δ
  nextTx : TxId
  /-- How many ids the store has issued. -/
  issued : Nat
  /-- The store's own clock. -/
  clock : Nat

namespace Store

variable {δ : Type}

/-- A store over a database in this state. -/
def new (d : δ) : Store δ := ⟨d, 0, 0, 0⟩

/-- The stamp of this moment. -/
def now (s : Store δ) : Timestamp := .tick s.clock

/-- The next id to be issued. -/
def nextId (s : Store δ) : Uuid := Uuid.issue s.issued

/-- The store after an operation that took an id and a stamp. -/
def advance (s : Store δ) (d : δ) : Store δ :=
  { s with db := d, issued := s.issued + 1, clock := s.clock + 1 }

/-- The store after an operation that took a stamp. -/
def tick (s : Store δ) (d : δ) : Store δ := { s with db := d, clock := s.clock + 1 }

variable (db : Database δ)

/-- Tells the database about the beginning or the end of a transaction. -/
def control (context : String) (c : Command) (s : Store δ) : Except StorageError Unit × Store δ :=
  let (reply, d) := db c s.db
  ((reply.map fun _ => ()).mapError (·.toStorage context), { s with db := d })

/-- Opens a transaction. -/
def begin (s : Store δ) : Except StorageError TxId × Store δ :=
  let (outcome, t) := s.control db "begin tx" (.begin s.nextTx)
  (outcome.map fun _ => s.nextTx, { t with nextTx := s.nextTx + 1 })

/-- Inserts an empty file under a fresh id. -/
def insertFile (tx : TxId) (s : Store δ) : Except StorageError Uuid × Store δ :=
  let (result, d) := File.create db (some tx) s.nextId s.now s.db
  ((result.map (·.id)).mapError (·.toStorage "save file info"), s.advance d)

/-- Inserts a chunk under a fresh id. -/
def insertChunk (tx : TxId) (file : Uuid) (bytes : Bytes) (s : Store δ) :
    Except StorageError Uuid × Store δ :=
  let (result, d) := Chunk.create db (some tx) s.nextId file bytes s.now s.db
  ((result.map (·.id)).mapError (·.toStorage "save file chunk"), s.advance d)

/-- Notes the size of a file and the order of its chunks; it is an error if no row is touched. -/
def finishFile (tx : TxId) (file : Uuid) (size : Int) (chunks : List Uuid) (s : Store δ) :
    Except StorageError Unit × Store δ :=
  let (result, d) := File.finish db (some tx) file size chunks s.now s.db
  let outcome : Except StorageError Unit :=
    match result with
    | .ok rows => if rows = 0 then .error .notFound else .ok ()
    | .error e => .error (e.toStorage "update file size and chunk_ids")
  (outcome, s.tick d)

/-- Deletes the chunks of a file. -/
def deleteChunks (tx : TxId) (file : Uuid) (s : Store δ) : Except StorageError Nat × Store δ :=
  let (result, d) := Chunk.deleteByFile db (some tx) file s.db
  (result.mapError (·.toStorage "delete chunks"), { s with db := d })

/-- Deletes a file. -/
def deleteFile (tx : TxId) (file : Uuid) (s : Store δ) : Except StorageError Nat × Store δ :=
  let (result, d) := File.delete db (some tx) file s.db
  (result.mapError (·.toStorage "delete file"), { s with db := d })

/-- Finds a file. -/
def findFile (id : Uuid) (s : Store δ) : Except StorageError (Option FileRecord) × Store δ :=
  let (result, d) := File.find db none id s.db
  (result.mapError (·.toStorage "get file info"), { s with db := d })

/-- Fetches the bytes of a chunk. -/
def findChunk (id : Uuid) (s : Store δ) : Except StorageError (Option Bytes) × Store δ :=
  let (result, d) := Chunk.findBytes db none id s.db
  (result.mapError (·.toStorage "get chunk"), { s with db := d })

/-- Replaces the metadata of a file, outside of any transaction. -/
def updateMetadata (id : Uuid) (data : Option Bytes) (s : Store δ) :
    Except StorageError Nat × Store δ :=
  let (result, d) := File.setMetadata db none id data s.now s.db
  (result.mapError (·.toStorage "update metadata"), s.tick d)

/-- Lets go of a transaction without a commit or a rollback. -/
def discard (tx : TxId) (s : Store δ) : Store δ := { s with db := (db (.discard tx) s.db).2 }

/-- Serves a call. -/
def serve (q : Request) (s : Store δ) : q.Outcome × Store δ :=
  match q with
  | .begin => s.begin db
  | .insertFile tx => s.insertFile db tx
  | .insertChunk tx file bytes => s.insertChunk db tx file bytes
  | .finishFile tx file size chunks => s.finishFile db tx file size chunks
  | .deleteChunks tx file => s.deleteChunks db tx file
  | .deleteFile tx file => s.deleteFile db tx file
  | .commit tx => s.control db "commit" (.commit tx)
  | .rollback tx => s.control db "rollback" (.rollback tx)
  | .findFile id => s.findFile db id
  | .findChunk id => s.findChunk db id
  | .updateMetadata id data => s.updateMetadata db id data

end Store
end ChunkVault.Sql
