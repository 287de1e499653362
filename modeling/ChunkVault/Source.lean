/-
# ChunkVault.Source -- where the content of a new file comes from

A source is a schedule of events: bytes that one read hands out, failures, pauses, and tokens that
fire while it is read. The writer takes it in fills. A fill reads until a whole chunk is there or the
source has nothing more to give, joins what the reads hand out, and goes on after a read that was only
interrupted. What the fills of a source are depends on the source alone.
-/
import ChunkVault.Record
import ChunkVault.StorageError

namespace ChunkVault

/-- What happens when a source is read. -/
inductive SourceEvent where
  /-- Bytes for a read; what the reader has no room for is left for the next one. -/
  | bytes (content : Bytes)
  /-- The read fails. -/
  | fail (error : IoError)
  /-- A token fires, and the read goes on. -/
  | cancel (token : String)
  /-- A token fires, and the read never ends. -/
  | stall (token : String)
  /-- The read is not ready at once; it is taken up again later. -/
  | pause
  /-- The read hands out nothing, as at the end. -/
  | nothing
deriving DecidableEq

/-- The events of a source in order. After the last of them nothing is left to read. -/
abbrev Source := List SourceEvent

namespace Source

/-- Content as a source of short reads hands it out: at most `step` bytes at a time. Where there is
content, reads of no bytes at all are no better than an end. -/
def pieces (step : Nat) (content : Bytes) : Source :=
  if content.length ≤ step then [.bytes content]
  else if step = 0 then [.nothing]
  else .bytes (content.take step) :: pieces step (content.drop step)
termination_by content.length
decreasing_by simp [List.length_drop]; omega

/-- The same events, with every read handing out at most `step` bytes. -/
def limited (step : Nat) (source : Source) : Source :=
  source.flatMap fun
    | .bytes content => pieces step content
    | event => [event]

end Source

/-- How a fill ends. -/
inductive FillEnd where
  /-- The bytes read: a whole chunk, or fewer if the source ended. -/
  | filled (content : Bytes)
  | failed (error : IoError)
  /-- The source is never ready again. -/
  | stalled
deriving DecidableEq

/-- One fill: the tokens fired before each pause, the tokens fired after the last pause, and the end. -/
structure Fill where
  pauses : List (List String)
  fires : List String
  result : FillEnd
deriving DecidableEq

namespace Fill

/-- A fill that takes events as they come: `room` bytes are missing, `got` is what was read, `fires` the
tokens fired since the last of the `pauses`. The second answer is what is left of the source. -/
def take (room : Nat) (got : Bytes) (fires : List String) (pauses : List (List String)) :
    Source → Fill × Source
  | [] => (⟨pauses, fires, .filled got⟩, [])
  | event :: rest =>
    if room = 0 then (⟨pauses, fires, .filled got⟩, event :: rest)
    else match event with
      | .bytes content =>
        if content.length ≤ room then
          take (room - content.length) (got ++ content) fires pauses rest
        else
          (⟨pauses, fires, .filled (got ++ content.take room)⟩, .bytes (content.drop room) :: rest)
      | .fail error =>
        if error.kind = .interrupted then take room got fires pauses rest
        else (⟨pauses, fires, .failed error⟩, rest)
      | .cancel token => take room got (fires ++ [token]) pauses rest
      | .stall token => (⟨pauses, fires ++ [token], .stalled⟩, rest)
      | .pause => take room got [] (pauses ++ [fires]) rest
      | .nothing => (⟨pauses, fires, .filled got⟩, rest)

/-- Whether a fill is a whole chunk, so that another one follows. -/
def isWhole (f : Fill) : Bool :=
  match f.result with
  | .filled content => content.length = chunkSize
  | _ => false

end Fill

namespace Source

/-- The number of fills that a source can be good for: every whole chunk takes a byte at least. -/
def fillBound (source : Source) : Nat :=
  source.foldl (fun n event => match event with
    | .bytes content => n + content.length
    | _ => n) 1

/-- At most `bound` fills, up to and with the first that is no whole chunk. -/
def fillsUpTo : Nat → Source → List Fill
  | 0, _ => []
  | bound + 1, source =>
    let (fill, rest) := Fill.take chunkSize [] [] [] source
    if fill.isWhole then fill :: fillsUpTo bound rest else [fill]

/-- The fills of a source: whole chunks, and then one that is shorter, empty, failed or stalled. -/
def fills (source : Source) : List Fill := fillsUpTo source.fillBound source

end Source
end ChunkVault
