/-
# ChunkVault.Proofs.Cursor -- a reader is a cursor over the content

A reader knows chunks, a cache and three conditions that it latches. Seen from outside it is much less: a
position in one run of bytes, whether its end has been reached, and whether it was closed. `Cursor` is
that machine, and `Reader.Tracks` says when a reader stands for one. Each operation keeps the two together
and gives the same answer on both sides (`read_tracks`, `seek_tracks`, `close_tracks`), so every history
of operations does (`session_tracks`).

Nothing is asked of a store but that it answers each fetch of the reader with the chunk in question.
-/
import ChunkVault.Reader
import ChunkVault.Proofs.Layout
import ChunkVault.Proofs.Trace

namespace ChunkVault

open Program

/-! ## Operations and replies -/

/-- What a caller may do with an open file. -/
inductive CursorOp where
  /-- Reads into a buffer that holds these bytes. -/
  | read (buffer : Bytes)
  | seek (offset : Int) (whence : Whence)
  | close
deriving DecidableEq

/-- What an operation answers. -/
inductive CursorAnswer where
  /-- The answer of a read, and what the buffer holds after it. -/
  | read (result : Except StorageError ReadOutcome) (buffer : Bytes)
  | seek (result : Except StorageError Int)
  | close (result : Except StorageError Unit)

/-- An answer and the position after it. -/
structure CursorReply where
  answer : CursorAnswer
  position : Int

/-- A buffer after a read: the bytes that were read stand at its front, and the rest is as it was. -/
def copyInto (buffer : Bytes) : Except StorageError ReadOutcome → Bytes
  | .ok outcome => outcome.content ++ buffer.drop outcome.content.length
  | .error _ => buffer

namespace Reader

/-- One operation on a reader. -/
def perform (r : Reader) : CursorOp → Program (CursorReply × Reader)
  | .read buffer => do
    let (result, r) ← r.read buffer.length
    return (⟨.read result (copyInto buffer result), r.position⟩, r)
  | .seek offset whence =>
    let (result, r) := r.seek offset whence
    return (⟨.seek result, r.position⟩, r)
  | .close =>
    let (result, r) := r.close
    return (⟨.close result, r.position⟩, r)

/-- Operations on a reader, one after another. -/
def session : List CursorOp → Reader → Program (List CursorReply × Reader)
  | [], r => return ([], r)
  | op :: ops, r => do
    let (reply, r) ← r.perform op
    let (replies, r) ← session ops r
    return (reply :: replies, r)

end Reader

/-! ## The machine -/

/-- A position in a run of bytes. -/
structure Cursor where
  position : Nat
  /-- The position has reached the end. -/
  drained : Bool
  closed : Bool
deriving DecidableEq

namespace Cursor

/-- A cursor at the front. -/
def start : Cursor := ⟨0, false, false⟩

/-- The number of bytes that a read hands out: no more than there is room for, than the chunk holds that
the position lies in, and than there are left. -/
def grant (content : Bytes) (c : Cursor) (room : Nat) : Nat :=
  min room (min (chunkSize - c.position % chunkSize) (content.length - c.position))

/-- Hands out the bytes at the position. -/
def read (content : Bytes) (c : Cursor) (room : Nat) : Except StorageError ReadOutcome × Cursor :=
  if c.drained then (.error .endOfStream, c)
  else if c.closed then (.error .closedResource, c)
  else if content.length ≤ c.position then (.error .endOfStream, { c with drained := true })
  else
    let n := c.grant content room
    let atEnd := decide (c.position + n = content.length)
    (.ok ⟨(content.drop c.position).take n, atEnd⟩,
      { c with position := c.position + n, drained := atEnd })

/-- The position that an origin stands for. -/
def origin (content : Bytes) (c : Cursor) : Whence → Int
  | .start => 0
  | .current => c.position
  | .fromEnd => content.length

/-- Moves the position. -/
def seek (content : Bytes) (c : Cursor) (offset : Int) (whence : Whence) :
    Except StorageError Int × Cursor :=
  if c.closed then (.error (if c.drained then .endOfStream else .closedResource), c)
  else
    let target := c.origin content whence + offset
    if 0 ≤ target ∧ target ≤ maxPosition then
      (.ok target, { c with position := target.toNat, drained := false })
    else (.error .invalidPosition, c)

/-- Closes the cursor, which can be done once. -/
def close (c : Cursor) : Except StorageError Unit × Cursor :=
  if c.closed then (.error .closedResource, c) else (.ok (), { c with closed := true })

/-- One operation on a cursor. -/
def perform (content : Bytes) (c : Cursor) : CursorOp → CursorReply × Cursor
  | .read buffer =>
    let (result, c) := c.read content buffer.length
    (⟨.read result (copyInto buffer result), c.position⟩, c)
  | .seek offset whence =>
    let (result, c) := c.seek content offset whence
    (⟨.seek result, c.position⟩, c)
  | .close =>
    let (result, c) := c.close
    (⟨.close result, c.position⟩, c)

/-- Operations on a cursor, one after another. -/
def session (content : Bytes) : List CursorOp → Cursor → List CursorReply × Cursor
  | [], c => ([], c)
  | op :: ops, c =>
    let (reply, c) := c.perform content op
    let (replies, c) := session content ops c
    (reply :: replies, c)

end Cursor

/-! ## Reads of an open cursor -/

namespace Cursor

variable {content : Bytes} {c : Cursor} {room : Nat}

theorem read_of_le (hd : c.drained = false) (hc : c.closed = false)
    (hp : content.length ≤ c.position) :
    c.read content room = (.error .endOfStream, { c with drained := true }) := by
  rw [read, hd, if_neg Bool.false_ne_true, if_neg (by rw [hc]; exact Bool.false_ne_true), if_pos hp]

theorem read_of_lt (hd : c.drained = false) (hc : c.closed = false)
    (hp : c.position < content.length) :
    c.read content room =
      (.ok ⟨(content.drop c.position).take (c.grant content room),
          decide (c.position + c.grant content room = content.length)⟩,
        { c with
          position := c.position + c.grant content room
          drained := decide (c.position + c.grant content room = content.length) }) := by
  rw [read, hd, hc, if_neg Bool.false_ne_true, if_neg Bool.false_ne_true, if_neg (Nat.not_le_of_lt hp)]

/-- A read grants no more than is left. -/
theorem grant_le (content : Bytes) (c : Cursor) (room : Nat) :
    c.grant content room ≤ content.length - c.position :=
  Nat.le_trans (Nat.min_le_right _ _) (Nat.min_le_right _ _)

/-- A read hands out a byte at least where there is room for it and something left. -/
theorem grant_pos (hroom : 0 < room) (hp : c.position < content.length) :
    0 < c.grant content room := by
  have hmod := Nat.mod_lt c.position chunkSize_pos
  unfold grant
  omega

end Cursor

/-! ## Where the bytes of a read lie -/

/-- What the chunk that a position lies in holds from the position on. -/
theorem drop_piece (content : Bytes) (p : Nat) :
    ((content.drop (p / chunkSize * chunkSize)).take chunkSize).drop (p % chunkSize) =
      (content.drop p).take (chunkSize - p % chunkSize) := by
  rw [List.drop_take, List.drop_drop, Nat.div_add_mod' p chunkSize]

/-- As long as a position lies before the end, there is a chunk that it lies in. -/
theorem piece_at {content : Bytes} {p : Nat} (h : p < content.length) :
    (pieces content)[p / chunkSize]? =
      some ((content.drop (p / chunkSize * chunkSize)).take chunkSize) := by
  rw [pieces_getElem?, if_pos (Nat.lt_of_le_of_lt (Nat.div_mul_le_self p chunkSize) h)]

/-- Taking at most `room` of what the chunk still holds is taking what a read grants. -/
theorem take_grant (content : Bytes) (c : Cursor) (room : Nat) :
    ((content.drop c.position).take (chunkSize - c.position % chunkSize)).take room =
      (content.drop c.position).take (c.grant content room) := by
  have hlen : (content.drop c.position).length = content.length - c.position := List.length_drop
  rw [List.take_take, List.take_eq_take_iff, hlen, Cursor.grant]
  omega

/-! ## The simulation -/

/-- A fetch of one of these chunks under this token is answered with the chunk. -/
def Exchange.Serves (token : Token) (ids : List Uuid) (chunks : List Bytes) : Exchange → Prop
  | ⟨.race t (.findChunk id), answer⟩ => t = token →
      ∀ (i : Nat) (chunk : Bytes), ids[i]? = some id → chunks[i]? = some chunk →
        answer = .finished (.ok (some chunk))
  | _ => True

/-- A reader of some content stands for a cursor in it. What the reader has at hand is a chunk of the
content, wherever the cursor is. -/
structure Reader.Tracks (content : Bytes) (token : Token) (ids : List Uuid) (r : Reader) (c : Cursor) :
    Prop where
  token : r.token = token
  chunkIds : r.chunkIds = ids
  size : r.size = content.length
  position : r.position = c.position
  state : r.state = if c.drained then .drained else .ready
  closed : r.closed = c.closed
  cached : ∀ chunk, r.cached = some chunk → (pieces content)[chunk.index]? = some chunk.content

namespace Reader

variable {content : Bytes} {token : Token} {ids : List Uuid} {r : Reader} {c : Cursor}

/-- A new reader stands at the front. -/
theorem new_tracks (content : Bytes) (token : Token) (ids : List Uuid) :
    (Reader.new token content.length ids).Tracks content token ids .start :=
  ⟨rfl, rfl, rfl, rfl, rfl, rfl, nofun⟩

namespace Tracks

theorem index (h : r.Tracks content token ids c) : r.index = c.position / chunkSize := by
  rw [Reader.index, h.position, ← Int.natCast_ediv, Int.toNat_natCast]

theorem offset (h : r.Tracks content token ids c) : r.offset = c.position % chunkSize := by
  rw [Reader.offset, h.position, ← Int.natCast_emod, Int.toNat_natCast]

/-- Both sides have latched the same. -/
theorem latched? (h : r.Tracks content token ids c) :
    r.latched? = if c.drained then some .endOfStream
      else if c.closed then some .closedResource else none := by
  rw [Reader.latched?, h.state, h.closed]
  cases c.drained <;> rfl

/-- **What a reader delivers from the right chunk is what the cursor reads.** -/
theorem deliver (h : r.Tracks content token ids c) (hd : c.drained = false) (hc : c.closed = false)
    (hp : c.position < content.length) {chunk : Bytes}
    (hchunk : (pieces content)[c.position / chunkSize]? = some chunk) (room : Nat) :
    (r.deliver chunk room).1 = (c.read content room).1 ∧
      (r.deliver chunk room).2.Tracks content token ids (c.read content room).2 := by
  rw [piece_at hp] at hchunk
  obtain rfl := Option.some.inj hchunk
  have havailable : (((content.drop (c.position / chunkSize * chunkSize)).take chunkSize).drop r.offset) =
      (content.drop c.position).take (chunkSize - c.position % chunkSize) := by
    rw [h.offset, drop_piece]
  have hpos : 0 < ((content.drop c.position).take (chunkSize - c.position % chunkSize)).length := by
    have hmod := Nat.mod_lt c.position chunkSize_pos
    rw [List.length_take, List.length_drop]
    omega
  have hfull : ((content.drop c.position).take (chunkSize - c.position % chunkSize)).isEmpty = false :=
    List.isEmpty_eq_false_iff.mpr (List.length_pos_iff.mp hpos)
  have hgrant := Cursor.grant_le content c room
  have hlength : ((content.drop c.position).take (c.grant content room)).length = c.grant content room := by
    rw [List.length_take, List.length_drop, Nat.min_eq_left hgrant]
  have hposition : r.position + (c.grant content room : Int) = (c.position + c.grant content room : Nat) := by
    rw [h.position, Int.natCast_add]
  -- with the grant in place of the bytes that are left in the chunk, both sides count alike
  rw [Cursor.read_of_lt hd hc hp]
  unfold Reader.deliver
  simp only [havailable, hfull, Bool.false_and, Bool.false_eq_true, if_false, take_grant, hlength,
    hposition, h.size]
  by_cases hend : c.position + c.grant content room = content.length
  · rw [if_pos (by omega), decide_eq_true hend]
    exact ⟨rfl, h.token, h.chunkIds, rfl, rfl, rfl, h.closed, h.cached⟩
  · rw [if_neg (by omega), decide_eq_false hend]
    refine ⟨rfl, h.token, h.chunkIds, rfl, rfl, ?_, h.closed, h.cached⟩
    show r.state = .ready
    rw [h.state, hd]
    rfl

/-- Keeping another chunk at hand changes nothing that is seen. -/
theorem keep (h : r.Tracks content token ids c) {chunk : CachedChunk}
    (hchunk : (pieces content)[chunk.index]? = some chunk.content) :
    { r with cached := some chunk }.Tracks content token ids c :=
  { h with cached := fun _ hcached => Option.some.inj hcached ▸ hchunk }

end Tracks

theorem fetch_ends {token : Token} {id : Uuid} {es : List Exchange}
    {o : Except StorageError (Option Bytes)} (h : (fetch token id).Ends es o) :
    ∃ race : Race (Except StorageError (Option Bytes)),
      ⟨.race token (.findChunk id), race⟩ ∈ es ∧ o = race.outcome := by
  obtain ⟨race, rest, rfl, h⟩ := h
  refine ⟨race, List.mem_cons_self, ?_⟩
  cases race with
  | refused => exact h.2
  | abandoned =>
    obtain ⟨_, _, -, -, rfl⟩ := h
    rfl
  | finished o =>
    obtain ⟨_, _, -, -, rfl⟩ := h
    rfl

/-- The chunk at hand is one of the content. -/
theorem Tracks.cachedAt? (h : r.Tracks content token ids c) {i : Nat} {chunk : Bytes}
    (hat : r.cachedAt? i = some chunk) : (pieces content)[i]? = some chunk := by
  unfold Reader.cachedAt? at hat
  split at hat
  · rename_i cached hcached
    split at hat
    · rename_i hindex
      rw [← hindex, ← Option.some.inj hat]
      exact h.cached _ hcached
    · cases hat
  · cases hat

/-- A fetch brings the chunk that the position lies in. -/
theorem fetchAndDeliver_tracks (hids : ids.length = (pieces content).length) {es : List Exchange}
    {room : Nat} {result : Except StorageError ReadOutcome} {r' : Reader}
    (h : r.Tracks content token ids c) (hd : c.drained = false) (hc : c.closed = false)
    (hp : c.position < content.length) (hrun : (r.fetchAndDeliver room).Ends es (result, r'))
    (hserved : ∀ x ∈ es, x.Serves token ids (pieces content)) :
    result = (c.read content room).1 ∧ r'.Tracks content token ids (c.read content room).2 := by
  -- before the end there is a chunk at the position, so there is an id to fetch it by
  obtain ⟨chunk, hpiece⟩ : ∃ chunk, (pieces content)[r.index]? = some chunk := by
    rw [h.index]
    exact ⟨_, piece_at hp⟩
  have hin : r.index < ids.length := by
    rw [hids]
    exact (List.getElem?_eq_some_iff.mp hpiece).1
  obtain ⟨id, hid⟩ : ∃ id, ids[r.index]? = some id := ⟨_, List.getElem?_eq_getElem hin⟩
  unfold fetchAndDeliver at hrun
  rw [← h.chunkIds] at hid
  rw [hid] at hrun
  simp only [bind_eq, ends_bind] at hrun
  obtain ⟨es₁, es₂, o, rfl, hfetch, hrun⟩ := hrun
  obtain ⟨race, hmem, rfl⟩ := fetch_ends hfetch
  rw [h.chunkIds] at hid
  obtain rfl := hserved _ (List.mem_append_left _ hmem) h.token _ _ hid hpiece
  obtain ⟨-, heq⟩ := hrun
  obtain ⟨rfl, rfl⟩ := Prod.mk.inj heq
  have hkept := @Tracks.keep _ _ _ _ _ h ⟨r.index, chunk⟩ hpiece
  rw [h.index] at hpiece
  exact hkept.deliver hd hc hp hpiece room

/-- **A read answers what the cursor answers.** -/
theorem read_tracks (hids : ids.length = (pieces content).length) {es : List Exchange} {room : Nat}
    {result : Except StorageError ReadOutcome} {r' : Reader} (h : r.Tracks content token ids c)
    (hrun : (r.read room).Ends es (result, r'))
    (hserved : ∀ x ∈ es, x.Serves token ids (pieces content)) :
    result = (c.read content room).1 ∧ r'.Tracks content token ids (c.read content room).2 := by
  unfold Reader.read at hrun
  rw [h.latched?] at hrun
  cases hd : c.drained with
  | true =>
    rw [hd] at hrun
    obtain ⟨-, heq⟩ := hrun
    obtain ⟨rfl, rfl⟩ := Prod.mk.inj heq
    rw [Cursor.read, hd, if_pos rfl]
    exact ⟨rfl, h⟩
  | false =>
    cases hc : c.closed with
    | true =>
      rw [hd, hc] at hrun
      obtain ⟨-, heq⟩ := hrun
      obtain ⟨rfl, rfl⟩ := Prod.mk.inj heq
      rw [Cursor.read, hd, hc, if_neg Bool.false_ne_true, if_pos rfl]
      exact ⟨rfl, h⟩
    | false =>
      rw [hd, hc] at hrun
      simp only [Bool.false_eq_true, if_false] at hrun
      by_cases hp : content.length ≤ c.position
      · rw [if_pos (by rw [h.size, h.position]; exact Int.ofNat_le.mpr hp)] at hrun
        obtain ⟨-, heq⟩ := hrun
        obtain ⟨rfl, rfl⟩ := Prod.mk.inj heq
        rw [Cursor.read_of_le hd hc hp]
        exact ⟨rfl, { h with state := rfl }⟩
      · rw [if_neg (by rw [h.size, h.position]; omega), if_neg (by rw [h.position]; omega)] at hrun
        -- the chunk is at hand, or it is fetched: it is the same one
        cases hat : r.cachedAt? r.index with
        | some chunk =>
          rw [hat] at hrun
          obtain ⟨-, heq⟩ := hrun
          obtain ⟨rfl, rfl⟩ := Prod.mk.inj heq
          rw [h.index] at hat
          exact h.deliver hd hc (Nat.lt_of_not_le hp) (h.cachedAt? hat) room
        | none =>
          rw [hat] at hrun
          exact fetchAndDeliver_tracks hids h hd hc (Nat.lt_of_not_le hp) hrun hserved

/-- **A seek answers what the cursor answers.** -/
theorem Tracks.seek_tracks (h : r.Tracks content token ids c) (offset : Int) (whence : Whence) :
    (r.seek offset whence).1 = (c.seek content offset whence).1 ∧
      (r.seek offset whence).2.Tracks content token ids (c.seek content offset whence).2 := by
  have horigin : r.origin whence = c.origin content whence := by
    cases whence with
    | start => rfl
    | current => exact h.position
    | fromEnd => exact h.size
  have hlatched : r.seekLatched? =
      if c.closed then some (if c.drained then .endOfStream else .closedResource) else none := by
    rw [Reader.seekLatched?, h.state, h.closed]
    cases c.drained <;> cases c.closed <;> rfl
  unfold Reader.seek Cursor.seek
  rw [hlatched]
  cases hc : c.closed with
  | true =>
    refine ⟨?_, h⟩
    rfl
  | false =>
    simp only [Bool.false_eq_true, if_false, horigin]
    split
    · rename_i htarget
      refine ⟨rfl, { h with position := ?_, state := rfl, closed := ?_ }⟩
      · exact (Int.toNat_of_nonneg htarget.1).symm
      · exact h.closed.trans hc
    · exact ⟨rfl, h⟩

/-- **Closing answers what the cursor answers.** -/
theorem Tracks.close_tracks (h : r.Tracks content token ids c) :
    r.close.1 = c.close.1 ∧ r.close.2.Tracks content token ids c.close.2 := by
  unfold Reader.close Cursor.close
  rw [h.closed]
  cases c.closed with
  | true => exact ⟨rfl, h⟩
  | false => exact ⟨rfl, { h with closed := rfl, cached := nofun }⟩

/-! ## Histories -/

/-- A run of a read is one of the reader, and what has become of the buffer is noted. -/
theorem ends_perform_read {r r' : Reader} {buffer : Bytes} {es : List Exchange} {reply : CursorReply} :
    (r.perform (.read buffer)).Ends es (reply, r') ↔
      ∃ result, (r.read buffer.length).Ends es (result, r') ∧
        reply = ⟨.read result (copyInto buffer result), r'.position⟩ := by
  constructor
  · intro h
    obtain ⟨⟨result, r₁⟩, hread, heq⟩ := ends_bind_done.mp h
    obtain ⟨rfl, rfl⟩ := Prod.mk.inj heq
    exact ⟨result, hread, rfl⟩
  · rintro ⟨result, hread, rfl⟩
    exact ends_bind_done.mpr ⟨(result, r'), hread, rfl⟩

/-- A run of a history is a run of its first operation and then one of the others. -/
theorem ends_session_cons {r r' : Reader} {op : CursorOp} {ops : List CursorOp} {es : List Exchange}
    {replies : List CursorReply} :
    (r.session (op :: ops)).Ends es (replies, r') ↔
      ∃ es₁ es₂ reply r₁ rest, es = es₁ ++ es₂ ∧ (r.perform op).Ends es₁ (reply, r₁) ∧
        (r₁.session ops).Ends es₂ (rest, r') ∧ replies = reply :: rest := by
  constructor
  · intro h
    obtain ⟨es₁, es₂, ⟨reply, r₁⟩, rfl, hop, h⟩ := ends_bind.mp h
    obtain ⟨⟨rest, r₂⟩, hops, heq⟩ := ends_bind_done.mp h
    obtain ⟨rfl, rfl⟩ := Prod.mk.inj heq
    exact ⟨es₁, es₂, reply, r₁, rest, rfl, hop, hops, rfl⟩
  · rintro ⟨es₁, es₂, reply, r₁, rest, rfl, hop, hops, rfl⟩
    exact ends_bind.mpr ⟨es₁, es₂, (reply, r₁), rfl, hop, ends_bind_done.mpr ⟨(rest, r'), hops, rfl⟩⟩

theorem perform_tracks (hids : ids.length = (pieces content).length) {es : List Exchange}
    {op : CursorOp} {reply : CursorReply} {r' : Reader} (h : r.Tracks content token ids c)
    (hrun : (r.perform op).Ends es (reply, r'))
    (hserved : ∀ x ∈ es, x.Serves token ids (pieces content)) :
    reply = (c.perform content op).1 ∧ r'.Tracks content token ids (c.perform content op).2 := by
  cases op with
  | read buffer =>
    obtain ⟨result, hread, rfl⟩ := ends_perform_read.mp hrun
    obtain ⟨hresult, htracks⟩ := read_tracks hids h hread hserved
    refine ⟨?_, htracks⟩
    rw [hresult, htracks.position]
    rfl
  | seek offset whence =>
    have hdone : (reply, r') = (⟨.seek (r.seek offset whence).1, (r.seek offset whence).2.position⟩,
      (r.seek offset whence).2) := hrun.2
    obtain ⟨rfl, rfl⟩ := Prod.mk.inj hdone
    obtain ⟨hresult, htracks⟩ := h.seek_tracks offset whence
    refine ⟨?_, htracks⟩
    rw [hresult, htracks.position]
    rfl
  | close =>
    have hdone : (reply, r') = (⟨.close r.close.1, r.close.2.position⟩, r.close.2) := hrun.2
    obtain ⟨rfl, rfl⟩ := Prod.mk.inj hdone
    obtain ⟨hresult, htracks⟩ := h.close_tracks
    refine ⟨?_, htracks⟩
    rw [hresult, htracks.position]
    rfl

theorem session_tracks (hids : ids.length = (pieces content).length) {ops : List CursorOp}
    {es : List Exchange} {replies : List CursorReply} {r' : Reader} (h : r.Tracks content token ids c)
    (hrun : (r.session ops).Ends es (replies, r'))
    (hserved : ∀ x ∈ es, x.Serves token ids (pieces content)) :
    replies = (c.session content ops).1 ∧ r'.Tracks content token ids (c.session content ops).2 := by
  -- along the history, with the reader and the cursor that the operations before have left
  induction ops generalizing r c es replies with
  | nil =>
    obtain ⟨-, heq⟩ := hrun
    obtain ⟨rfl, rfl⟩ := Prod.mk.inj heq
    exact ⟨rfl, h⟩
  | cons op ops ih =>
    obtain ⟨es₁, es₂, reply, r₁, rest, rfl, hop, hops, rfl⟩ := ends_session_cons.mp hrun
    obtain ⟨rfl, h₁⟩ := perform_tracks hids h hop fun x hx => hserved x (List.mem_append_left _ hx)
    obtain ⟨rfl, h₂⟩ := ih h₁ hops fun x hx => hserved x (List.mem_append_right _ hx)
    exact ⟨rfl, h₂⟩

/-- **A reader is a cursor over its content.** Over chunks that are laid out, with every fetch answered
with the chunk in question, any history of reads, seeks and closings brings the answers of the cursor,
the contents of the buffers and the positions included. -/
theorem session_refines_cursor {chunks : List Bytes} {ops : List CursorOp} {es : List Exchange}
    {replies : List CursorReply} {r' : Reader} (hlaid : LaidOut (chunks.map List.length))
    (hids : ids.length = chunks.length)
    (hrun : ((Reader.new token chunks.flatten.length ids).session ops).Ends es (replies, r'))
    (hserved : ∀ x ∈ es, x.Serves token ids chunks) :
    replies = (Cursor.start.session chunks.flatten ops).1 := by
  -- chunks that are laid out are the pieces of what they hold, which is what a reader tracks
  rw [← pieces_flatten hlaid] at hids hserved
  exact (session_tracks hids (new_tracks _ token ids) hrun hserved).1

/-- A history over three bytes: two are read into a buffer of two, the position goes back by one, two
more are read into a buffer of four, and after the end nothing is. One fetch serves all of it. -/
theorem session_of_three_bytes :
    (Cursor.start.session [97, 98, 99] [.read [0, 0], .seek (-1) .current, .read [0, 0, 0, 0], .read [0]]).1 =
      [⟨.read (.ok ⟨[97, 98], false⟩) [97, 98], 2⟩, ⟨.seek (.ok 1), 1⟩,
        ⟨.read (.ok ⟨[98, 99], true⟩) [98, 99, 0, 0], 3⟩, ⟨.read (.error .endOfStream) [0], 3⟩] := by
  have hrun : ∃ r', ((Reader.new .own 3 [.ofNat 7]).session
        [.read [0, 0], .seek (-1) .current, .read [0, 0, 0, 0], .read [0]]).Ends
      [⟨.race .own (.findChunk (.ofNat 7)), .finished (.ok (some [97, 98, 99]))⟩,
        ⟨.count .fetchChunk false, ()⟩]
      ([⟨.read (.ok ⟨[97, 98], false⟩) [97, 98], 2⟩, ⟨.seek (.ok 1), 1⟩,
        ⟨.read (.ok ⟨[98, 99], true⟩) [98, 99, 0, 0], 3⟩, ⟨.read (.error .endOfStream) [0], 3⟩], r') :=
    ⟨_, Exists.intro _ (Exists.intro _ ⟨rfl, Exists.intro _ (Exists.intro _ ⟨rfl, rfl, rfl⟩)⟩)⟩
  obtain ⟨r', hrun⟩ := hrun
  have hserved : ∀ x ∈ ([⟨.race .own (.findChunk (.ofNat 7)), .finished (.ok (some [97, 98, 99]))⟩,
      ⟨.count .fetchChunk false, ()⟩] : List Exchange), x.Serves .own [.ofNat 7] [[97, 98, 99]] := by
    intro x hx
    rcases List.mem_cons.mp hx with rfl | hx
    · intro _ i chunk _ hchunk
      cases i with
      | zero => rw [← Option.some.inj hchunk]
      | succ i => cases hchunk
    · rw [List.mem_singleton.mp hx]
      exact trivial
  exact (@session_refines_cursor .own [.ofNat 7] [[97, 98, 99]] _ _ _ r' ⟨by decide, by decide⟩ rfl hrun
    hserved).symm

end Reader
end ChunkVault
