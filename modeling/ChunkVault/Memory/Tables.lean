/-
# ChunkVault.Memory.Tables -- the rows of a store in memory

Two tables, one of files and one of chunks, each a list of rows with their ids. Inserting a row replaces
one of the same id. A file takes its chunks with it when it is deleted.
-/
import ChunkVault.Record

namespace ChunkVault.Memory

/-- The committed rows of a store. -/
structure Tables where
  files : List FileRecord
  chunks : List ChunkRecord
deriving DecidableEq

namespace Tables

/-- No rows at all. -/
def empty : Tables := ⟨[], []⟩

/-- The file of this id. -/
def file? (t : Tables) (id : Uuid) : Option FileRecord := t.files.find? (·.id = id)

/-- The chunk of this id. -/
def chunk? (t : Tables) (id : Uuid) : Option ChunkRecord := t.chunks.find? (·.id = id)

/-- Whether there is a file of this id. -/
def hasFile (t : Tables) (id : Uuid) : Bool := t.files.any (·.id = id)

/-- The chunks that a file owns. -/
def chunksOf (t : Tables) (file : Uuid) : List ChunkRecord := t.chunks.filter (·.fileId = file)

/-- The lengths of a file's chunks in the order of its content; chunks that are gone are left out. -/
def chunkLengths (t : Tables) (file : Uuid) : List Nat :=
  match t.file? file with
  | some f => (f.chunkIds.filterMap t.chunk?).map (·.bytes.length)
  | none => []

/-! ## Changes -/

/-- Inserts a file row. -/
def insertFile (t : Tables) (f : FileRecord) : Tables :=
  { t with files := t.files.filter (·.id ≠ f.id) ++ [f] }

/-- Inserts a chunk row. -/
def insertChunk (t : Tables) (c : ChunkRecord) : Tables :=
  { t with chunks := t.chunks.filter (·.id ≠ c.id) ++ [c] }

/-- Changes the file of this id, if there is one. -/
def alterFile (t : Tables) (id : Uuid) (change : FileRecord → FileRecord) : Tables :=
  { t with files := t.files.map fun f => if f.id = id then change f else f }

/-- Notes the size of a file and the order of its chunks. -/
def finishFile (t : Tables) (now : Timestamp) (id : Uuid) (size : Int) (chunks : List Uuid) : Tables :=
  t.alterFile id fun f => { f with size := size, chunkIds := chunks, updatedAt := now }

/-- Replaces the metadata of a file. -/
def setMetadata (t : Tables) (now : Timestamp) (id : Uuid) (data : Option Bytes) : Tables :=
  t.alterFile id fun f => { f with metadata := data, updatedAt := now }

/-- Deletes the chunks that a file owns. -/
def deleteChunks (t : Tables) (file : Uuid) : Tables :=
  { t with chunks := t.chunks.filter (·.fileId ≠ file) }

/-- Deletes a file together with the chunks that it owns. -/
def deleteFile (t : Tables) (id : Uuid) : Tables :=
  { t.deleteChunks id with files := t.files.filter (·.id ≠ id) }

/-- Deletes one chunk behind the back of its file. -/
def removeChunk (t : Tables) (id : Uuid) : Tables :=
  { t with chunks := t.chunks.filter (·.id ≠ id) }

end Tables
end ChunkVault.Memory
