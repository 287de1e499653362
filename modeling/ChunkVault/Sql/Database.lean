/-
# ChunkVault.Sql.Database -- what a database answers

A database takes commands: single statements, and the beginnings and ends of transactions. It answers a
statement with rows, with the number of rows touched, or with an error. The rows are read back into the
records of the engine column by column.
-/
import ChunkVault.Sql.Statement
import ChunkVault.Request

namespace ChunkVault.Sql

/-- The errors of a database. -/
inductive DbError where
  | recordNotFound (message : String)
  | query (message : String)
  | execution (message : String)
  | connection (message : String)
  | notInserted
  | type (message : String)
  | custom (message : String)
deriving DecidableEq

namespace DbError

/-- The text of an error. -/
def message : DbError → String
  | recordNotFound m => "RecordNotFound Error: " ++ m
  | query m => "Query Error: " ++ m
  | execution m => "Execution Error: " ++ m
  | connection m => "Connection Error: " ++ m
  | notInserted => "None of the records are inserted"
  | type m => "Type Error: " ++ m
  | custom m => "Custom Error: " ++ m

/-- The texts of an error and of the causes behind it, outermost first. -/
def causes (e : DbError) : List String :=
  match e with
  | query m | execution m | connection m => [e.message, m]
  | _ => [e.message]

/-- A database error as the storage engine reports it: a missing record is the engine's own condition,
and all else is unknown. -/
def toStorage (context : String) (e : DbError) : StorageError :=
  match e with
  | recordNotFound _ => .notFound
  | other => .unknown context other.causes

end DbError

/-- What a database is told. -/
inductive Command where
  | begin (tx : TxId)
  | commit (tx : TxId)
  | rollback (tx : TxId)
  /-- A transaction is let go without a commit or a rollback. -/
  | discard (tx : TxId)
  /-- A statement, inside of a transaction or outside of any. -/
  | run (tx : Option TxId) (statement : Statement)

/-- What a database answers. -/
inductive Reply where
  | rows (rows : List Row)
  | affected (count : Nat)
deriving DecidableEq

/-- A database with states of type `δ`. -/
abbrev Database (δ : Type) := Command → δ → Except DbError Reply × δ

/-! ## Reading rows -/

namespace Row

/-- The value of a column; a missing one is null. -/
def value (row : Row) (column : String) : Value := (row.lookup column).getD .null

/-- The error for a column that may not be null. -/
def nullError (column : String) : DbError :=
  .type ("A null value was encountered while decoding " ++ column)

/-- Reads a column of ids. -/
def uuid (row : Row) (column : String) : Except DbError Uuid :=
  match row.value column with
  | .uuid id => .ok id
  | _ => .error (nullError (quoted column))

/-- Reads a column of numbers. -/
def int (row : Row) (column : String) : Except DbError Int :=
  match row.value column with
  | .int n => .ok n
  | _ => .error (nullError (quoted column))

/-- Reads a column of lists of ids. -/
def uuids (row : Row) (column : String) : Except DbError (List Uuid) :=
  match row.value column with
  | .uuids ids => .ok ids
  | _ => .error (nullError (quoted column))

/-- Reads a column of moments. -/
def time (row : Row) (column : String) : Except DbError Timestamp :=
  match row.value column with
  | .time t => .ok t
  | _ => .error (nullError (quoted column))

/-- Reads a column of bytes. -/
def bytes (row : Row) (column : String) : Except DbError Bytes :=
  match row.value column with
  | .bytes b => .ok b
  | _ => .error (nullError (quoted column))

/-- Reads a column of bytes that may be null. -/
def bytes? (row : Row) (column : String) : Option Bytes :=
  match row.value column with
  | .bytes b => some b
  | _ => none

/-- Reads a file row, column after column. -/
def file (row : Row) : Except DbError FileRecord := do
  let id ← row.uuid "id"
  let size ← row.int "size"
  let chunkIds ← row.uuids "chunk_ids"
  let createdAt ← row.time "created_at"
  let updatedAt ← row.time "updated_at"
  return { id := id, size := size, chunkIds := chunkIds, metadata := row.bytes? "metadata"
           createdAt := createdAt, updatedAt := updatedAt }

/-- Reads a chunk row, column after column. -/
def chunk (row : Row) : Except DbError ChunkRecord := do
  let id ← row.uuid "id"
  let fileId ← row.uuid "file_id"
  let bytes ← row.bytes "bytes"
  let _ ← row.time "created_at"
  let _ ← row.time "updated_at"
  return { id := id, fileId := fileId, bytes := bytes }

/-- Reads a row whose one column is asked for by its place. -/
def onlyBytes (row : Row) : Except DbError Bytes :=
  match row with
  | (_, .bytes b) :: _ => .ok b
  | _ => .error (nullError "0")

end Row

namespace Reply

/-- The first row, if the reply has rows at all. -/
def first? : Reply → Option Row
  | rows (row :: _) => some row
  | _ => none

/-- The number of rows touched. -/
def count : Reply → Nat
  | affected n => n
  | rows _ => 0

end Reply
end ChunkVault.Sql
