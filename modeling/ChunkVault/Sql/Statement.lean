/-
# ChunkVault.Sql.Statement -- what is sent to a database

The engine needs eight statements on rows and six that change the schema. A statement has a text with
numbered places and the values that go into them.
-/
import ChunkVault.Record

namespace ChunkVault.Sql

/-- A value in a statement or in a row. -/
inductive Value where
  | null
  | uuid (id : Uuid)
  | uuids (ids : List Uuid)
  | int (n : Int)
  | bytes (b : Bytes)
  | time (t : Timestamp)
deriving DecidableEq

namespace Value

/-- A number, which is null if 64 bits cannot hold it. -/
def ofInt (n : Int) : Value :=
  if -9223372036854775808 ≤ n ∧ n ≤ 9223372036854775807 then int n else null

/-- A value that may be missing. -/
def ofOption : Option Bytes → Value
  | some b => bytes b
  | none => null

end Value

/-- A row: the names of its columns, and their values. -/
abbrev Row := List (String × Value)

/-- A change of the schema. -/
inductive SchemaChange where
  | createFileTable
  | createChunkTable
  | createChunkIndex
  | dropChunkIndex
  | dropChunkTable
  | dropFileTable
deriving DecidableEq

/-- A statement. -/
inductive Statement where
  | insertFile (file : FileRecord)
  | insertChunk (chunk : ChunkRecord) (createdAt updatedAt : Timestamp)
  | finishFile (id : Uuid) (size : Int) (chunks : List Uuid) (now : Timestamp)
  | setMetadata (id : Uuid) (data : Option Bytes) (now : Timestamp)
  | selectFile (id : Uuid)
  | selectBytes (id : Uuid)
  | deleteChunks (file : Uuid)
  | deleteFile (id : Uuid)
  | schema (change : SchemaChange)
deriving DecidableEq

/-! ## Columns -/

/-- A name in the quotes that identifiers stand in. -/
def quoted (name : String) : String := "\"" ++ name ++ "\""

/-- Parts with commas between them. -/
def commas (parts : List String) : String := String.intercalate ", " parts

/-- The columns of a file row. -/
def fileColumns : List String := ["id", "size", "chunk_ids", "metadata", "created_at", "updated_at"]

/-- The columns of a chunk row. -/
def chunkColumns : List String := ["id", "file_id", "bytes", "created_at", "updated_at"]

/-- The row of a file. -/
def fileRow (f : FileRecord) : Row :=
  [("id", .uuid f.id), ("size", .int f.size), ("chunk_ids", .uuids f.chunkIds),
    ("metadata", .ofOption f.metadata), ("created_at", .time f.createdAt),
    ("updated_at", .time f.updatedAt)]

/-- The row of a chunk. -/
def chunkRow (c : ChunkRecord) (createdAt updatedAt : Timestamp) : Row :=
  [("id", .uuid c.id), ("file_id", .uuid c.fileId), ("bytes", .bytes c.bytes),
    ("created_at", .time createdAt), ("updated_at", .time updatedAt)]

/-! ## Texts -/

/-- Inserts a row and hands it back. -/
def insertText (table : String) (columns : List String) : String :=
  let names := commas (columns.map quoted)
  let places := commas ((List.range columns.length).map fun i => "$" ++ toString (i + 1))
  "INSERT INTO " ++ quoted table ++ " (" ++ names ++ ") VALUES (" ++ places ++ ") RETURNING " ++ names

/-- The first columns of a table's row of one id. -/
def selectText (table : String) (columns : List String) : String :=
  commas (columns.map fun c => quoted table ++ "." ++ quoted c) ++ " FROM " ++ quoted table ++
    " WHERE " ++ quoted table ++ ".\"id\" = $1 LIMIT $2"

/-- A column of a table to be created. -/
def columnText (name type : String) : String := quoted name ++ " " ++ type

/-- A moment that is always there. -/
def stampType : String := "timestamp with time zone NOT NULL NOT NULL"

/-- Creates a table from the texts of its columns and constraints. -/
def createTableText (table : String) (parts : List String) : String :=
  "CREATE TABLE IF NOT EXISTS " ++ quoted table ++ " ( " ++ commas parts ++ " )"

namespace SchemaChange

/-- The text of a schema change. -/
def text : SchemaChange → String
  | createFileTable => createTableText "file"
      [columnText "id" "uuid NOT NULL PRIMARY KEY",
        columnText "size" "bigint NOT NULL DEFAULT 0",
        columnText "chunk_ids" "uuid[] NOT NULL DEFAULT '\x7b\x7d'::uuid[]",
        columnText "metadata" "bytea NULL",
        columnText "created_at" stampType,
        columnText "updated_at" stampType]
  | createChunkTable => createTableText "chunk"
      [columnText "id" "uuid NOT NULL PRIMARY KEY",
        columnText "file_id" "uuid NOT NULL NOT NULL",
        columnText "bytes" "bytea NOT NULL",
        columnText "created_at" stampType,
        columnText "updated_at" stampType,
        "CONSTRAINT \"fk_chunk_file\" FOREIGN KEY (\"file_id\") REFERENCES \"file\" (\"id\") " ++
          "ON DELETE CASCADE ON UPDATE CASCADE"]
  | createChunkIndex => "CREATE INDEX \"idx_chunk_file\" ON \"chunk\" (\"file_id\")"
  | dropChunkIndex => "DROP INDEX \"idx_chunk_file\""
  | dropChunkTable => "DROP TABLE \"chunk\""
  | dropFileTable => "DROP TABLE \"file\""

end SchemaChange

namespace Statement

/-- The text of a statement. -/
def text : Statement → String
  | insertFile _ => insertText "file" fileColumns
  | insertChunk .. => insertText "chunk" chunkColumns
  | finishFile .. =>
    "UPDATE \"file\" SET \"size\" = $1, \"chunk_ids\" = $2, \"updated_at\" = $3 WHERE \"file\".\"id\" = $4"
  | setMetadata .. =>
    "UPDATE \"file\" SET \"metadata\" = $1, \"updated_at\" = $2 WHERE \"file\".\"id\" = $3"
  | selectFile _ => "SELECT " ++ selectText "file" fileColumns
  | selectBytes _ => "SELECT " ++ selectText "chunk" ["bytes"]
  | deleteChunks _ => "DELETE FROM \"chunk\" WHERE \"chunk\".\"file_id\" = $1"
  | deleteFile _ => "DELETE FROM \"file\" WHERE \"file\".\"id\" = $1"
  | schema change => change.text

/-- The values of a statement, in the order of their places. -/
def values : Statement → List Value
  | insertFile f => (fileRow f).map (·.2)
  | insertChunk c createdAt updatedAt => (chunkRow c createdAt updatedAt).map (·.2)
  | finishFile id size chunks now => [.int size, .uuids chunks, .time now, .uuid id]
  | setMetadata id data now => [.ofOption data, .time now, .uuid id]
  | selectFile id | selectBytes id => [.uuid id, .int 1]
  | deleteChunks id | deleteFile id => [.uuid id]
  | schema _ => []

/-- Whether a statement hands back rows. The others hand back the number of rows they touched. -/
def isQuery : Statement → Bool
  | insertFile _ | insertChunk .. | selectFile _ | selectBytes _ => true
  | _ => false

end Statement
end ChunkVault.Sql
