/-
# ChunkVault.Record -- the rows that a store keeps, and a caller's view of a file

Content is kept as an ordered list of chunks of at most `chunkSize` bytes; only the last chunk of a
file may be shorter. A file row names its chunks in the order of the content.
-/
import ChunkVault.Uuid
import ChunkVault.Timestamp

namespace ChunkVault

/-- Bytes of content, of a chunk or of a metadata blob. -/
abbrev Bytes := List UInt8

/-- The greatest length of a chunk, and the most that one read hands out. -/
def chunkSize : Nat := 4096

/-- A file as the store knows it. -/
structure FileRecord where
  id : Uuid
  /-- The length of the content. -/
  size : Int
  /-- The order of the chunks is the order of the content. -/
  chunkIds : List Uuid
  metadata : Option Bytes
  createdAt : Timestamp
  updatedAt : Timestamp
deriving DecidableEq

/-- A chunk as the store knows it. -/
structure ChunkRecord where
  id : Uuid
  /-- The file that owns the chunk. -/
  fileId : Uuid
  bytes : Bytes
deriving DecidableEq

/-- What a caller sees of a file: no chunk layout. -/
structure FileInfo where
  id : Uuid
  size : Int
  metadata : Option Bytes
  createdAt : Timestamp
  updatedAt : Timestamp
deriving DecidableEq

/-- The caller's view of a file row. -/
def FileRecord.info (f : FileRecord) : FileInfo where
  id := f.id
  size := f.size
  metadata := f.metadata
  createdAt := f.createdAt
  updatedAt := f.updatedAt

end ChunkVault
