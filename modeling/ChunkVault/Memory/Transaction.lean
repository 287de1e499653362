/-
# ChunkVault.Memory.Transaction -- writes that wait for their commit

A transaction keeps its writes in order and applies all of them at once when it is committed. Until then
it answers from the committed tables as they are now together with its own writes: `fileVisible` and
`chunksVisible` say what the tables would hold after the writes, without applying them.
-/
import ChunkVault.Memory.Tables

namespace ChunkVault.Memory

/-- A write that waits. -/
inductive Write where
  | insertFile (file : FileRecord)
  | insertChunk (chunk : ChunkRecord)
  | finishFile (id : Uuid) (size : Int) (chunks : List Uuid)
  | deleteChunks (file : Uuid)
  | deleteFile (id : Uuid)
deriving DecidableEq

namespace Write

/-- Applies one write; `now` stamps the rows that it finishes. -/
def apply (now : Timestamp) (t : Tables) : Write → Tables
  | insertFile f => t.insertFile f
  | insertChunk c => t.insertChunk c
  | finishFile id size chunks => t.finishFile now id size chunks
  | deleteChunks file => t.deleteChunks file
  | deleteFile id => t.deleteFile id

/-- Whether a file is there after this write, given whether it was there before. -/
def keepsFile (id : Uuid) (there : Bool) : Write → Bool
  | insertFile f => if f.id = id then true else there
  | deleteFile gone => if gone = id then false else there
  | _ => there

/-- The number of a file's chunks after this write, given their number before. -/
def countChunks (file : Uuid) (count : Nat) : Write → Nat
  | insertChunk c => if c.fileId = file then count + 1 else count
  | deleteChunks gone | deleteFile gone => if gone = file then 0 else count
  | _ => count

end Write

/-- An open transaction. -/
structure Transaction where
  /-- The writes that wait, the oldest first. -/
  writes : List Write
  /-- How often a chunk was to be inserted, whether or not it succeeded. -/
  inserts : Nat
deriving DecidableEq

namespace Transaction

/-- A transaction that has done nothing yet. -/
def empty : Transaction := ⟨[], 0⟩

/-- Adds a write to those that wait. -/
def push (tx : Transaction) (w : Write) : Transaction := { tx with writes := tx.writes ++ [w] }

/-- Whether the transaction sees a file of this id. -/
def fileVisible (tx : Transaction) (t : Tables) (id : Uuid) : Bool :=
  tx.writes.foldl (Write.keepsFile id) (t.hasFile id)

/-- How many chunks of a file the transaction sees. -/
def chunksVisible (tx : Transaction) (t : Tables) (file : Uuid) : Nat :=
  tx.writes.foldl (Write.countChunks file) (t.chunksOf file).length

/-- Applies the writes in their order. -/
def apply (tx : Transaction) (now : Timestamp) (t : Tables) : Tables :=
  tx.writes.foldl (Write.apply now) t

end Transaction
end ChunkVault.Memory
