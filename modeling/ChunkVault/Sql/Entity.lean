/-
# ChunkVault.Sql.Entity -- files and chunks in a database

Each operation is one statement. Two of them look at their arguments first: a size may not be negative,
and a chunk may not be empty.
-/
import ChunkVault.Sql.Database

namespace ChunkVault.Sql

/-- Why an operation on rows failed. -/
inductive EntityError where
  /-- The arguments were refused, and the database was not asked. -/
  | validation (reason : String)
  | database (error : DbError)
deriving DecidableEq

namespace EntityError

/-- The text of an error. -/
def message : EntityError → String
  | validation reason => "validation error: " ++ reason
  | database e => "database error: " ++ e.message

/-- The error as the storage engine reports it. -/
def toStorage (context : String) (e : EntityError) : StorageError :=
  match e with
  | database db => db.toStorage context
  | other => .unknown context [other.message]

end EntityError

section

variable {δ : Type} (db : Database δ) (tx : Option TxId)

/-- Sends a statement, and makes something of the reply. -/
def send {α : Type} (s : Statement) (read : Reply → Except DbError α) (d : δ) :
    Except EntityError α × δ :=
  let (reply, d) := db (.run tx s) d
  ((reply.bind read).mapError .database, d)

/-- Reads the row that an insert hands back. -/
def inserted {α : Type} (read : Row → Except DbError α) (r : Reply) : Except DbError α :=
  match r.first? with
  | some row => read row
  | none => .error (.recordNotFound "Failed to find inserted item")

/-- Reads the row that a select hands back, if there is one. -/
def selected {α : Type} (read : Row → Except DbError α) (r : Reply) : Except DbError (Option α) :=
  match r.first? with
  | some row => (read row).map some
  | none => .ok none

namespace File

/-- Inserts an empty file; its size and its chunks come with `finish`. -/
def create (id : Uuid) (now : Timestamp) (d : δ) : Except EntityError FileRecord × δ :=
  let file : FileRecord :=
    { id := id, size := 0, chunkIds := [], metadata := none, createdAt := now, updatedAt := now }
  send db tx (.insertFile file) (inserted Row.file) d

/-- Notes the size of a file and the order of its chunks, and answers how many rows were touched. -/
def finish (id : Uuid) (size : Int) (chunks : List Uuid) (now : Timestamp) (d : δ) :
    Except EntityError Nat × δ :=
  if size < 0 then (.error (.validation "size must be non-negative"), d)
  else send db tx (.finishFile id size chunks now) (.ok ·.count) d

/-- Replaces the metadata of a file, and answers how many rows were touched. -/
def setMetadata (id : Uuid) (data : Option Bytes) (now : Timestamp) (d : δ) :
    Except EntityError Nat × δ :=
  send db tx (.setMetadata id data now) (.ok ·.count) d

/-- Finds a file. -/
def find (id : Uuid) (d : δ) : Except EntityError (Option FileRecord) × δ :=
  send db tx (.selectFile id) (selected Row.file) d

/-- Deletes a file, and answers how many rows were touched. -/
def delete (id : Uuid) (d : δ) : Except EntityError Nat × δ :=
  send db tx (.deleteFile id) (.ok ·.count) d

end File

namespace Chunk

/-- Inserts a chunk. -/
def create (id file : Uuid) (bytes : Bytes) (now : Timestamp) (d : δ) :
    Except EntityError ChunkRecord × δ :=
  if bytes.isEmpty then (.error (.validation "chunk must not be empty"), d)
  else send db tx (.insertChunk ⟨id, file, bytes⟩ now now) (inserted Row.chunk) d

/-- Finds the bytes of a chunk, and no other column. -/
def findBytes (id : Uuid) (d : δ) : Except EntityError (Option Bytes) × δ :=
  send db tx (.selectBytes id) (selected Row.onlyBytes) d

/-- Deletes the chunks of a file, and answers how many rows were touched. -/
def deleteByFile (file : Uuid) (d : δ) : Except EntityError Nat × δ :=
  send db tx (.deleteChunks file) (.ok ·.count) d

end Chunk
end

/-! ## How the two tables belong together -/

/-- How many rows of the other table belong to one. -/
inductive Multiplicity where
  | many
  | one
deriving DecidableEq

/-- A relation between two tables, seen from one of them. -/
structure Relation where
  multiplicity : Multiplicity
  fromColumn : String
  toColumn : String
  /-- Whether the rows of this side own those of the other. -/
  isOwner : Bool
deriving DecidableEq

/-- A file has many chunks, and owns them. -/
def File.relations : List Relation := [⟨.many, "id", "file_id", true⟩]

/-- A chunk has one file, and is owned by it. -/
def Chunk.relations : List Relation := [⟨.one, "file_id", "id", false⟩]

end ChunkVault.Sql
