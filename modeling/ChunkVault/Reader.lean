/-
# ChunkVault.Reader -- a cursor over the chunks of a file

A reader fetches one chunk at a time and keeps the last one it fetched. It belongs to one caller. Every
fetch is a point query, so a file that is deleted while a reader is open shows up as `notFound` at the
next chunk that is not at hand, even after earlier reads succeeded.

A failed fetch is final: the reader latches the error and hands it back ever after, also when it has
been closed. The end of the content is latched too, but a seek lets go of it.
-/
import ChunkVault.Program
import ChunkVault.Whence

namespace ChunkVault

/-- The condition that a reader is in. -/
inductive ReaderState where
  | ready
  /-- The position has reached the end; a seek makes the reader ready again. -/
  | drained
  /-- A fetch failed or was given up. -/
  | failed (error : StorageError)
deriving DecidableEq

/-- A fetched chunk and its place in the file. -/
structure CachedChunk where
  index : Nat
  content : Bytes
deriving DecidableEq

/-- A cursor over the chunks of a file. -/
structure Reader where
  /-- Gives up fetches when it fires. -/
  token : Token
  chunkIds : List Uuid
  size : Int
  position : Int
  cached : Option CachedChunk
  state : ReaderState
  closed : Bool
deriving DecidableEq

/-- What a read that succeeds hands out. -/
structure ReadOutcome where
  /-- The bytes copied to the front of the caller's buffer. -/
  content : Bytes
  /-- Set on the read that hands out the last bytes. -/
  endOfStream : Bool
deriving DecidableEq

/-- The greatest position: that of a signed word of 64 bits. -/
def maxPosition : Int := 9223372036854775807

namespace Reader

/-- A reader at the front of a file of this size and these chunks. -/
def new (token : Token) (size : Int) (chunkIds : List Uuid) : Reader where
  token := token
  chunkIds := chunkIds
  size := size
  position := 0
  cached := none
  state := .ready
  closed := false

/-! ## Reading -/

/-- The answer that a reader has latched for every read, if any; a latched condition outranks closing. -/
def latched? (r : Reader) : Option StorageError :=
  match r.state with
  | .failed e => some e
  | .drained => some .endOfStream
  | .ready => if r.closed then some .closedResource else none

/-- The chunk that the position lies in. -/
def index (r : Reader) : Nat := (r.position / chunkSize).toNat

/-- How far into that chunk the position lies. -/
def offset (r : Reader) : Nat := (r.position % chunkSize).toNat

/-- Latches a failure and reports it. -/
def fail {α : Type} (r : Reader) (e : StorageError) : Except StorageError α × Reader :=
  (.error e, { r with state := .failed e })

/-- Hands out up to `room` bytes of the chunk that the position lies in. A chunk that ends before the
position is shorter than the size of the file implies. -/
def deliver (r : Reader) (chunk : Bytes) (room : Nat) : Except StorageError ReadOutcome × Reader :=
  let available := chunk.drop r.offset
  if available.isEmpty && room ≠ 0 then
    r.fail (.unknown "read chunk" [s!"chunk {r.index} shorter than file size implies"])
  else
    let content := available.take room
    let position := r.position + content.length
    if r.size ≤ position then
      (.ok ⟨content, true⟩, { r with position := position, state := .drained })
    else
      (.ok ⟨content, false⟩, { r with position := position })

/-- The chunk at this place, if it is the one at hand. -/
def cachedAt? (r : Reader) (index : Nat) : Option Bytes :=
  match r.cached with
  | some c => if c.index = index then some c.content else none
  | none => none

/-- Fetches the chunk that the position lies in, and hands out up to `room` of its bytes. -/
def fetchAndDeliver (r : Reader) (room : Nat) :
    Program (Except StorageError ReadOutcome × Reader) :=
  match r.chunkIds[r.index]? with
  | none =>
    let count := r.chunkIds.length
    return r.fail (.unknown "read chunk" [s!"chunk index {r.index} out of range ({count} chunks)"])
  | some id => do
    match ← Program.fetch r.token id with
    | .error e => return r.fail e
    | .ok none => return r.fail .notFound
    | .ok (some content) => return { r with cached := some ⟨r.index, content⟩ }.deliver content room

/-- Hands out up to `room` bytes at the position, at most to the end of the chunk that it lies in;
callers read on to cross into the next one. -/
def read (r : Reader) (room : Nat) : Program (Except StorageError ReadOutcome × Reader) :=
  match r.latched? with
  | some e => return (.error e, r)
  | none =>
    if r.size ≤ r.position then return (.error .endOfStream, { r with state := .drained })
    else if r.position < 0 then return (.error .invalidPosition, r)
    else
      match r.cachedAt? r.index with
      | some content => return r.deliver content room
      | none => r.fetchAndDeliver room

/-! ## Seeking and closing -/

/-- The answer that a reader has latched for every seek, if any: the end of the content only holds a
reader that was closed. -/
def seekLatched? (r : Reader) : Option StorageError :=
  match r.state with
  | .failed e => some e
  | .drained => if r.closed then some .endOfStream else none
  | .ready => if r.closed then some .closedResource else none

/-- The position that an origin stands for. -/
def origin (r : Reader) : Whence → Int
  | .start => 0
  | .current => r.position
  | .fromEnd => r.size

/-- Moves the position. One past the end is accepted, and the next read then finds the end. -/
def seek (r : Reader) (offset : Int) (whence : Whence) : Except StorageError Int × Reader :=
  match r.seekLatched? with
  | some e => (.error e, r)
  | none =>
    let target := r.origin whence + offset
    if 0 ≤ target ∧ target ≤ maxPosition then
      (.ok target, { r with position := target, state := .ready })
    else (.error .invalidPosition, r)

/-- Moves the position, with the origin given as its number. The number is looked at first. -/
def seekNumbered (r : Reader) (offset : Int) (whence : Int) : Except StorageError Int × Reader :=
  match Whence.ofNumber whence with
  | .error e => (.error e, r)
  | .ok origin => r.seek offset origin

/-- Moves the position to an unsigned number of bytes from the start. The number is looked at first:
one that no position can hold is refused. -/
def seekUnsigned (r : Reader) (offset : Nat) : Except StorageError Int × Reader :=
  if (offset : Int) ≤ maxPosition then r.seek offset .start else (.error .invalidPosition, r)

/-- Closes the reader, which can be done once. A failure or an end reached earlier is kept. -/
def close (r : Reader) : Except StorageError Unit × Reader :=
  if r.closed then (.error .closedResource, r)
  else (.ok (), { r with closed := true, cached := none })

/-! ## Draining -/

/-- The number of bytes between the position and the end. -/
def remaining (r : Reader) : Nat := (r.size - r.position).toNat

/-- Reads whole chunks until the end, at most `reads` times. -/
def drainWithin : (reads : Nat) → Reader → Program (Except StorageError Bytes × Reader)
  | 0, r => return (.ok [], r)
  | reads + 1, r => do
    match ← r.read chunkSize with
    | (.ok outcome, r) =>
      if outcome.endOfStream then return (.ok outcome.content, r)
      else
        let (rest, r) ← drainWithin reads r
        return (rest.map (outcome.content ++ ·), r)
    | (.error .endOfStream, r) => return (.ok [], r)
    | (.error e, r) => return (.error e, r)

/-- Reads everything from the position to the end. Every read but the last hands out a byte at least,
which bounds their number. Room for all that the size says is left is set aside first; memory is taken to be
there for it. -/
def readToEnd (r : Reader) : Program (Except StorageError Bytes × Reader) :=
  r.drainWithin (r.remaining + 1)

/-! ## Streaming -/

/-- A reader that is handed out piece by piece, and the number of bytes it may still hand out. -/
structure Stream where
  reader : Reader
  limit : Option Nat
deriving DecidableEq

/-- What a stream has next. -/
inductive Item where
  | piece (content : Bytes) (rest : Stream)
  /-- The stream is at its end. -/
  | last
  /-- The stream fails, and ends. -/
  | broken (error : StorageError)

namespace Stream

/-- The most that the next piece may hold. -/
def room (s : Stream) : Nat :=
  match s.limit with
  | none => chunkSize
  | some n => min n chunkSize

/-- The next piece: at most one chunk, and at most what the limit leaves. -/
def next (s : Stream) : Program Item :=
  if s.limit = some 0 then return .last
  else do
    match ← s.reader.read s.room with
    | (.ok outcome, r) =>
      if outcome.content.isEmpty then return .last
      else return .piece outcome.content ⟨r, s.limit.map (· - outcome.content.length)⟩
    | (.error .endOfStream, _) => return .last
    | (.error e, _) => return .broken e

/-- The pieces of a stream in order, and the error that it ends with, if any. At most `pieces` are
taken; `seen` of them came before, and `after` is done with the number of pieces so far, after each
piece and after the failure of the stream. -/
def collectWithin (after : Nat → Program Unit) : (pieces seen : Nat) → Stream →
    Program (List Bytes × Option StorageError)
  | 0, _, _ => return ([], none)
  | pieces + 1, seen, s => do
    match ← s.next with
    | .last => return ([], none)
    | .broken e =>
      after seen
      return ([], some e)
    | .piece content rest =>
      after (seen + 1)
      let (more, error) ← collectWithin after pieces (seen + 1) rest
      return (content :: more, error)

/-- All the pieces of a stream, and the error that it ends with, if any. A piece holds a byte at least,
which bounds their number. -/
def collect (s : Stream) (after : Nat → Program Unit) : Program (List Bytes × Option StorageError) :=
  collectWithin after (s.reader.remaining + 1) 0 s

end Stream

/-- The content from the position on, piece by piece, up to `limit` bytes. -/
def stream (r : Reader) (limit : Option Nat) : Stream := ⟨r, limit⟩

end Reader
end ChunkVault
