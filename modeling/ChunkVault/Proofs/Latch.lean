/-
# ChunkVault.Proofs.Latch -- a reader that has failed stays failed

A read that gets as far as its chunk can fail in five ways: the file has no chunk at that place, the fetch
fails, the token fires, the store has no such chunk, or the chunk is shorter than the size of the file
implies (`ChunkFailure`). In each of them the reader latches the error (`ChunkFailure.failed`).

From then on no operation asks the store for anything, and `failure_latched` says what each of them
answers. It is the latched error with two exceptions. A seek with a numbered origin, or to an unsigned
number of bytes, looks at its argument before it looks at the latch, so an argument that it refuses is
refused with an error of its own. And draining takes the end of a stream for an end, also where a store
has reported it as the failure of a fetch.
-/
import Mathlib.Data.List.Forall2
import Mathlib.Tactic.ByContra
import ChunkVault.Reader
import ChunkVault.Proofs.Trace

namespace ChunkVault

open Program

/-! ## Operations and replies -/

/-- A place to seek to: an unsigned number of bytes from the start, or a signed one from the position or
the end. -/
inductive SeekTarget where
  | start (offset : Nat)
  | current (offset : Int)
  | fromEnd (offset : Int)
deriving DecidableEq

/-- What a caller may do with a reader. -/
inductive ReaderOp where
  | read (room : Nat)
  | seek (offset : Int) (whence : Whence)
  | seekNumbered (offset : Int) (whence : Int)
  | seekTo (target : SeekTarget)
  | readToEnd
  | close
deriving DecidableEq

/-- What an operation answers. -/
inductive ReaderReply where
  | read (result : Except StorageError ReadOutcome)
  | seek (result : Except StorageError Int)
  | content (result : Except StorageError Bytes)
  | close (result : Except StorageError Unit)

/-- The error of a result that is one. -/
def errorOf? {α : Type} : Except StorageError α → Option StorageError
  | .ok _ => none
  | .error e => some e

/-- The error that an operation answers. -/
def ReaderReply.error? : ReaderReply → Option StorageError
  | read result => errorOf? result
  | seek result => errorOf? result
  | content result => errorOf? result
  | close result => errorOf? result

/-- The error of an argument that an operation refuses, whatever its reader is like. -/
def ReaderOp.refusal? : ReaderOp → Option StorageError
  | seekNumbered _ whence => errorOf? (Whence.ofNumber whence)
  | seekTo (.start offset) => if (offset : Int) ≤ maxPosition then none else some .invalidPosition
  | _ => none

/-- What an operation answers on a reader that has latched this error for every read and every seek. The latch
is not looked at for a refused argument, and by a close. -/
def ReaderOp.lateReply (e : StorageError) (closed : Bool) : ReaderOp → ReaderReply
  | read _ => .read (.error e)
  | readToEnd => .content (if e = .endOfStream then .ok [] else .error e)
  | close => .close (if closed then .error .closedResource else .ok ())
  | op => .seek (.error (op.refusal?.getD e))

namespace Reader

/-- Moves the position to a target. -/
def seekTo (r : Reader) : SeekTarget → Except StorageError Int × Reader
  | .start offset => r.seekUnsigned offset
  | .current offset => r.seek offset .current
  | .fromEnd offset => r.seek offset .fromEnd

/-- One operation on a reader. -/
def operate (r : Reader) : ReaderOp → Program (ReaderReply × Reader)
  | .read room => do
    let (result, r) ← r.read room
    return (.read result, r)
  | .seek offset whence =>
    let (result, r) := r.seek offset whence
    return (.seek result, r)
  | .seekNumbered offset whence =>
    let (result, r) := r.seekNumbered offset whence
    return (.seek result, r)
  | .seekTo target =>
    let (result, r) := r.seekTo target
    return (.seek result, r)
  | .readToEnd => do
    let (result, r) ← r.readToEnd
    return (.content result, r)
  | .close =>
    let (result, r) := r.close
    return (.close result, r)

/-- Operations on a reader, one after another. -/
def history : List ReaderOp → Reader → Program (List ReaderReply × Reader)
  | [], r => return ([], r)
  | op :: ops, r => do
    let (reply, r) ← r.operate op
    let (replies, r) ← history ops r
    return (reply :: replies, r)

/-! ## How a read fails at its chunk -/

/-- A read of the reader gets as far as the chunk that the position lies in: nothing is latched, and the
position lies in the content. -/
structure Reaches (r : Reader) : Prop where
  unlatched : r.latched? = none
  nonneg : 0 ≤ r.position
  inside : r.position < r.size

/-- The error of a place at which the file has no chunk. -/
def outOfRange (r : Reader) : StorageError :=
  let count := r.chunkIds.length
  .unknown "read chunk" [s!"chunk index {r.index} out of range ({count} chunks)"]

/-- The error of a chunk that ends before the position. -/
def tooShort (r : Reader) : StorageError :=
  .unknown "read chunk" [s!"chunk {r.index} shorter than file size implies"]

/-- The ways in which a read fails at its chunk, by what was asked and answered and by the error. -/
inductive ChunkFailure (r : Reader) : List Exchange → StorageError → Prop
  | outOfRange (hreach : r.Reaches) (hnone : r.chunkIds[r.index]? = none) :
      ChunkFailure r [] r.outOfRange
  /-- The token had fired before the fetch, or fired during it. -/
  | cancelled {es : List Exchange} {id : Uuid} {race : Race (Except StorageError (Option Bytes))}
      (hmem : ⟨.race r.token (.findChunk id), race⟩ ∈ es) (hrace : race = .refused ∨ race = .abandoned) :
      ChunkFailure r es .cancelled
  | fetch {es : List Exchange} {id : Uuid} {e : StorageError}
      (hmem : ⟨.race r.token (.findChunk id), .finished (.error e)⟩ ∈ es) : ChunkFailure r es e
  | missing {es : List Exchange} {id : Uuid}
      (hmem : ⟨.race r.token (.findChunk id), .finished (.ok none)⟩ ∈ es) : ChunkFailure r es .notFound
  /-- The chunk, at hand or fetched, holds nothing from the position on. -/
  | short {es : List Exchange} {chunk : Bytes} (hreach : r.Reaches)
      (hchunk : r.cachedAt? r.index = some chunk ∨
        ∃ id, ⟨.race r.token (.findChunk id), .finished (.ok (some chunk))⟩ ∈ es)
      (hshort : chunk.drop r.offset = []) : ChunkFailure r es r.tooShort

variable {r r' : Reader} {e : StorageError} {es : List Exchange} {room : Nat}

/-- How a read fails that does not get as far as its chunk, and what it leaves. -/
inductive TurnedBack (r : Reader) : StorageError → Reader → Prop
  | latched {e : StorageError} (h : r.latched? = some e) : TurnedBack r e r
  | atEnd (hsize : r.size ≤ r.position) : TurnedBack r .endOfStream { r with state := .drained }
  | negative (hneg : r.position < 0) : TurnedBack r .invalidPosition r

/-- A read that does not get as far as its chunk asks nothing, and fails. -/
theorem read_unreached (h : ¬r.Reaches) (room : Nat) :
    ∃ e r', r.TurnedBack e r' ∧ r.read room = .done (.error e, r') := by
  unfold read
  cases hlatched : r.latched? with
  | some e => exact ⟨e, r, .latched hlatched, rfl⟩
  | none =>
    by_cases hsize : r.size ≤ r.position
    · exact ⟨_, _, .atEnd hsize, if_pos hsize⟩
    · by_cases hneg : r.position < 0
      · exact ⟨_, _, .negative hneg, (if_neg hsize).trans (if_pos hneg)⟩
      · exact absurd ⟨hlatched, Int.not_lt.mp hneg, Int.not_le.mp hsize⟩ h

/-- What a read makes of what its fetch has come to. -/
def arrive (r : Reader) (room : Nat) :
    Except StorageError (Option Bytes) → Except StorageError ReadOutcome × Reader
  | .error e => r.fail e
  | .ok none => r.fail .notFound
  | .ok (some chunk) => { r with cached := some ⟨r.index, chunk⟩ }.deliver chunk room

/-- The ways in which a read goes that gets as far as its chunk. -/
inductive ReadRun (r : Reader) (room : Nat) :
    List Exchange → Except StorageError ReadOutcome × Reader → Prop
  /-- The chunk is at hand, and nothing is asked. -/
  | atHand {chunk : Bytes} (hat : r.cachedAt? r.index = some chunk) : ReadRun r room [] (r.deliver chunk room)
  | outOfRange (hat : r.cachedAt? r.index = none) (hid : r.chunkIds[r.index]? = none) :
      ReadRun r room [] (r.fail r.outOfRange)
  /-- The chunk is fetched, and the fetch counted unless it was refused. -/
  | fetched {id : Uuid} {race : Race (Except StorageError (Option Bytes))} {rest : List Exchange}
      (hat : r.cachedAt? r.index = none) (hid : r.chunkIds[r.index]? = some id)
      (hrest : ∀ x ∈ rest, ∃ method failed, x = ⟨.count method failed, ()⟩) :
      ReadRun r room (⟨.race r.token (.findChunk id), race⟩ :: rest) (r.arrive room race.outcome)

/-- **A read that gets as far as its chunk** looks for it at hand and in the store. -/
theorem Reaches.readRun (h : r.Reaches) {result : Except StorageError ReadOutcome × Reader}
    (hrun : (r.read room).Ends es result) : ReadRun r room es result := by
  unfold read at hrun
  rw [h.unlatched] at hrun
  simp only at hrun
  rw [if_neg (Int.not_le.mpr h.inside), if_neg (Int.not_lt.mpr h.nonneg)] at hrun
  cases hat : r.cachedAt? r.index with
  | some chunk =>
    rw [hat] at hrun
    obtain ⟨rfl, rfl⟩ := hrun
    exact .atHand hat
  | none =>
    rw [hat] at hrun
    simp only [fetchAndDeliver] at hrun
    cases hid : r.chunkIds[r.index]? with
    | none =>
      rw [hid] at hrun
      obtain ⟨rfl, rfl⟩ := hrun
      exact .outOfRange hat hid
    | some id =>
      rw [hid] at hrun
      simp only [bind_eq, ends_bind] at hrun
      obtain ⟨_, es₂, o, rfl, ⟨race, rest, rfl, hrest⟩, hrun⟩ := hrun
      have hfetch : o = race.outcome ∧ ∀ x ∈ rest, ∃ method failed, x = ⟨.count method failed, ()⟩ := by
        cases race with
        | refused =>
          obtain ⟨rfl, rfl⟩ := hrest
          exact ⟨rfl, fun x hx => absurd hx List.not_mem_nil⟩
        | abandoned =>
          obtain ⟨_, _, rfl, rfl, rfl⟩ := hrest
          exact ⟨rfl, fun x hx => ⟨_, _, List.mem_singleton.mp hx⟩⟩
        | finished o' =>
          obtain ⟨_, _, rfl, rfl, rfl⟩ := hrest
          exact ⟨rfl, fun x hx => ⟨_, _, List.mem_singleton.mp hx⟩⟩
      obtain ⟨rfl, hcounts⟩ := hfetch
      have harrive : es₂ = [] ∧ result = r.arrive room race.outcome := by
        cases ho : race.outcome with
        | error e =>
          rw [ho] at hrun
          exact hrun
        | ok found =>
          rw [ho] at hrun
          cases found <;> exact hrun
      obtain ⟨rfl, rfl⟩ := harrive
      rw [List.append_nil]
      exact .fetched hat hid hcounts

/-- A reader that fails has latched its error. -/
theorem fail_error {α : Type} {e' : StorageError} (h : r.fail e' = ((.error e : Except StorageError α), r')) :
    e' = e ∧ r'.state = .failed e := by
  obtain ⟨he, rfl⟩ := Prod.mk.inj h
  obtain rfl := Except.error.inj he
  exact ⟨rfl, rfl⟩

/-- Of a chunk that fails to be delivered the reader has latched that it is too short. -/
theorem deliver_error {chunk : Bytes} (h : r.deliver chunk room = (.error e, r')) :
    chunk.drop r.offset = [] ∧ r.tooShort = e ∧ r'.state = .failed e := by
  unfold deliver at h
  simp only at h
  split at h
  · next hshort =>
    rw [Bool.and_eq_true] at hshort
    obtain ⟨he, hstate⟩ := fail_error h
    exact ⟨List.isEmpty_iff.mp hshort.1, he, hstate⟩
  · split at h
    · cases h
    · cases h

/-- The reader has been moved: another reader may come of it, but of the same file, with the same chunk at hand, and
closed only if it was. -/
structure Moved (r r' : Reader) : Prop where
  chunkIds : r'.chunkIds = r.chunkIds
  size : r'.size = r.size
  cached : r'.cached = r.cached
  closed : r'.closed = r.closed

theorem Moved.refl (r : Reader) : r.Moved r := ⟨rfl, rfl, rfl, rfl⟩

/-- Delivering moves the reader. -/
theorem deliver_moved (r : Reader) (chunk : Bytes) (room : Nat) : r.Moved (r.deliver chunk room).2 := by
  unfold deliver
  simp only
  split
  · exact ⟨rfl, rfl, rfl, rfl⟩
  · split <;> exact ⟨rfl, rfl, rfl, rfl⟩

/-- Seeking moves the reader. -/
theorem seek_moved (r : Reader) (offset : Int) (whence : Whence) : r.Moved (r.seek offset whence).2 := by
  unfold seek
  split
  · exact .refl r
  · simp only
    split
    · exact ⟨rfl, rfl, rfl, rfl⟩
    · exact .refl r

/-- **A read that fails at its chunk fails in one of these ways, and latches its error.** -/
theorem Reaches.chunkFailure (h : r.Reaches) (hrun : (r.read room).Ends es (.error e, r')) :
    ChunkFailure r es e ∧ r'.state = .failed e := by
  have hrun := h.readRun hrun
  generalize hresult : ((.error e : Except StorageError ReadOutcome), r') = result at hrun
  cases hrun with
  | atHand hat =>
    obtain ⟨hshort, rfl, hstate⟩ := deliver_error hresult.symm
    exact ⟨.short h (.inl hat) hshort, hstate⟩
  | outOfRange _ hid =>
    obtain ⟨rfl, hstate⟩ := fail_error hresult.symm
    exact ⟨.outOfRange h hid, hstate⟩
  | @fetched id race rest _ _ _ =>
    have hmem : ⟨.race r.token (.findChunk id), race⟩ ∈
        (⟨.race r.token (.findChunk id), race⟩ :: rest : List Exchange) := List.mem_cons_self
    cases race with
    | refused =>
      obtain ⟨rfl, hstate⟩ := fail_error hresult.symm
      exact ⟨.cancelled hmem (.inl rfl), hstate⟩
    | abandoned =>
      obtain ⟨rfl, hstate⟩ := fail_error hresult.symm
      exact ⟨.cancelled hmem (.inr rfl), hstate⟩
    | finished o =>
      cases o with
      | error e' =>
        obtain ⟨rfl, hstate⟩ := fail_error hresult.symm
        exact ⟨.fetch hmem, hstate⟩
      | ok found =>
        cases found with
        | none =>
          obtain ⟨rfl, hstate⟩ := fail_error hresult.symm
          exact ⟨.missing hmem, hstate⟩
        | some chunk =>
          obtain ⟨hshort, rfl, hstate⟩ := deliver_error hresult.symm
          exact ⟨.short h (.inr ⟨id, hmem⟩) hshort, hstate⟩

/-- A failure at the chunk is one of a read that got there. -/
theorem ChunkFailure.reaches (h : ChunkFailure r es e) {result : Except StorageError ReadOutcome × Reader}
    (hrun : (r.read room).Ends es result) : r.Reaches := by
  by_contra hnot
  -- a read that does not get there has asked nothing, so there is no fetch in its run
  obtain ⟨e', r', -, hdone⟩ := read_unreached hnot room
  rw [hdone] at hrun
  obtain ⟨rfl, -⟩ := hrun
  cases h with
  | outOfRange hreach _ => exact hnot hreach
  | cancelled hmem _ => exact List.not_mem_nil hmem
  | fetch hmem => exact List.not_mem_nil hmem
  | missing hmem => exact List.not_mem_nil hmem
  | short hreach _ _ => exact hnot hreach

/-- **A failure at the chunk is latched.** -/
theorem ChunkFailure.failed (h : ChunkFailure r es e) (hrun : (r.read room).Ends es (.error e, r')) :
    r'.state = .failed e :=
  ((h.reaches hrun).chunkFailure hrun).2

/-! ## What a reader answers that has latched an error -/

theorem read_latched (h : r.latched? = some e) (room : Nat) : r.read room = .done (.error e, r) := by
  rw [read, h]
  rfl

theorem readToEnd_latched (h : r.latched? = some e) :
    r.readToEnd = .done (if e = .endOfStream then .ok [] else .error e, r) := by
  unfold readToEnd drainWithin
  rw [read_latched h]
  cases e with
  | endOfStream => rfl
  | _ => rfl

theorem seek_latched (h : r.seekLatched? = some e) (offset : Int) (whence : Whence) :
    r.seek offset whence = (.error e, r) := by
  rw [seek, h]

/-- An argument that is refused is refused before the latch is looked at. -/
theorem seekNumbered_latched (h : r.seekLatched? = some e) (offset : Int) (whence : Int) :
    r.seekNumbered offset whence = (.error ((ReaderOp.seekNumbered offset whence).refusal?.getD e), r) := by
  show r.seekNumbered offset whence = (.error ((errorOf? (Whence.ofNumber whence)).getD e), r)
  unfold seekNumbered
  cases Whence.ofNumber whence with
  | ok origin => exact seek_latched h offset origin
  | error e' => rfl

theorem seekTo_latched (h : r.seekLatched? = some e) (target : SeekTarget) :
    r.seekTo target = (.error ((ReaderOp.seekTo target).refusal?.getD e), r) := by
  cases target with
  | start offset =>
    show r.seekUnsigned offset =
      (.error ((if (offset : Int) ≤ maxPosition then none else some .invalidPosition).getD e), r)
    unfold seekUnsigned
    by_cases hle : (offset : Int) ≤ maxPosition
    · rw [if_pos hle, if_pos hle]
      exact seek_latched h offset .start
    · rw [if_neg hle, if_neg hle]
      rfl
  | current offset => exact seek_latched h offset .current
  | fromEnd offset => exact seek_latched h offset .fromEnd

/-- What an operation leaves of a reader that has latched an error: it may have been closed, and nothing else
that is seen is another. -/
structure Lasts (r r' : Reader) : Prop where
  state : r'.state = r.state
  position : r'.position = r.position
  closed : r.closed = true → r'.closed = true

theorem Lasts.refl (r : Reader) : r.Lasts r := ⟨rfl, rfl, id⟩

theorem Lasts.trans {r'' : Reader} (h : r.Lasts r') (h' : r'.Lasts r'') : r.Lasts r'' :=
  ⟨h'.state.trans h.state, h'.position.trans h.position, h'.closed ∘ h.closed⟩

/-- What was latched stays latched, since a close does no harm to it. -/
theorem Lasts.latched? (h : r.Lasts r') (hlatched : r.latched? = some e) : r'.latched? = some e := by
  unfold Reader.latched? at hlatched ⊢
  rw [h.state]
  cases hstate : r.state with
  | ready =>
    rw [hstate] at hlatched
    simp only at hlatched ⊢
    split at hlatched
    · next hclosed => rwa [if_pos (h.closed hclosed)]
    · cases hlatched
  | _ => rwa [hstate] at hlatched

theorem Lasts.seekLatched? (h : r.Lasts r') (hlatched : r.seekLatched? = some e) : r'.seekLatched? = some e := by
  unfold Reader.seekLatched? at hlatched ⊢
  rw [h.state]
  cases hstate : r.state with
  | failed e' => rwa [hstate] at hlatched
  | _ =>
    rw [hstate] at hlatched
    simp only at hlatched ⊢
    split at hlatched
    · next hclosed => rwa [if_pos (h.closed hclosed)]
    · cases hlatched

theorem close_lasts (r : Reader) : r.Lasts r.close.2 := by
  unfold close
  split
  · exact .refl r
  · exact ⟨rfl, rfl, fun _ => rfl⟩

/-- **One operation on a reader that has latched an error** for reads and for seeks. -/
theorem operate_latched (hread : r.latched? = some e) (hseek : r.seekLatched? = some e) (op : ReaderOp) :
    ∃ r', r.operate op = .done (op.lateReply e r.closed, r') ∧ r.Lasts r' := by
  cases op with
  | read room =>
    refine ⟨r, ?_, .refl r⟩
    rw [operate, read_latched hread]
    rfl
  | seek offset whence =>
    refine ⟨r, ?_, .refl r⟩
    rw [operate, seek_latched hseek]
    rfl
  | seekNumbered offset whence =>
    refine ⟨r, ?_, .refl r⟩
    rw [operate, seekNumbered_latched hseek]
    rfl
  | seekTo target =>
    refine ⟨r, ?_, .refl r⟩
    rw [operate, seekTo_latched hseek]
    rfl
  | readToEnd =>
    refine ⟨r, ?_, .refl r⟩
    rw [operate, readToEnd_latched hread]
    rfl
  | close =>
    refine ⟨r.close.2, ?_, r.close_lasts⟩
    have hclose : r.close = (if r.closed then .error .closedResource else .ok (), r.close.2) := by
      unfold close
      split <;> rfl
    rw [operate, hclose]
    rfl

/-- **A history on a reader that has latched an error** for reads and for seeks asks nothing. -/
theorem history_latched (hread : r.latched? = some e) (hseek : r.seekLatched? = some e) (ops : List ReaderOp) :
    ∃ replies r', r.history ops = .done (replies, r') ∧ r.Lasts r' ∧
      List.Forall₂ (fun op reply => ∃ closed, reply = op.lateReply e closed) ops replies := by
  -- along the operations: each one leaves what is latched to the next
  induction ops generalizing r with
  | nil => exact ⟨[], r, rfl, .refl r, .nil⟩
  | cons op ops ih =>
    obtain ⟨r₁, hop, hlasts₁⟩ := operate_latched hread hseek op
    obtain ⟨replies, r₂, hops, hlasts₂, hreplies⟩ := ih (hlasts₁.latched? hread) (hlasts₁.seekLatched? hseek)
    refine ⟨_ :: replies, r₂, ?_, hlasts₁.trans hlasts₂, .cons ⟨r.closed, rfl⟩ hreplies⟩
    unfold history
    rw [hop]
    simp only [bind_eq, done_bind, hops]
    rfl

/-! ## What a failed reader answers -/

/-- What an operation answers on a reader that has latched this failure. -/
structure Latched (e : StorageError) (op : ReaderOp) (reply : ReaderReply) : Prop where
  /-- The latched error, unless the argument is refused or a drain takes the error for its end. -/
  error : op ≠ .close → op.refusal? = none → (op = .readToEnd → e ≠ .endOfStream) → reply.error? = some e
  refused : ∀ e', op.refusal? = some e' → reply.error? = some e'
  drained : op = .readToEnd → e = .endOfStream → reply = .content (.ok [])

theorem latched?_failed (h : r.state = .failed e) : r.latched? = some e := by rw [latched?, h]

theorem seekLatched?_failed (h : r.state = .failed e) : r.seekLatched? = some e := by rw [seekLatched?, h]

theorem seek_failed (h : r.state = .failed e) (offset : Int) (whence : Whence) :
    r.seek offset whence = (.error e, r) :=
  seek_latched (seekLatched?_failed h) offset whence

theorem read_failed (h : r.state = .failed e) (room : Nat) : r.read room = .done (.error e, r) :=
  read_latched (latched?_failed h) room

/-- The answer of a seek, whichever it is. -/
theorem latched_seek {op : ReaderOp} (hop : op ≠ .readToEnd) :
    Latched e op (.seek (.error (op.refusal?.getD e))) where
  error _ hnone _ := by
    rw [hnone]
    rfl
  refused e' he' := by
    rw [he']
    rfl
  drained hdrain := absurd hdrain hop

/-- What a reader answers late is what a failed one has to answer. -/
theorem latched_lateReply (e : StorageError) (closed : Bool) (op : ReaderOp) :
    Latched e op (op.lateReply e closed) := by
  cases op with
  | read room => exact ⟨fun _ _ _ => rfl, nofun, nofun⟩
  | readToEnd =>
    refine ⟨fun _ _ hne => ?_, nofun, fun _ heq => ?_⟩
    · rw [ReaderOp.lateReply, if_neg (hne rfl)]
      rfl
    · rw [ReaderOp.lateReply, if_pos heq]
  | close => exact ⟨fun hne => absurd rfl hne, nofun, nofun⟩
  | seek offset whence => exact latched_seek nofun
  | seekNumbered offset whence => exact latched_seek nofun
  | seekTo target => exact latched_seek nofun

/-- **A history on a failed reader**: each operation answers as it must, and none reaches the store. -/
theorem history_failed (h : r.state = .failed e) {ops : List ReaderOp} {replies : List ReaderReply}
    (hrun : (r.history ops).Ends es (replies, r')) :
    es = [] ∧ List.Forall₂ (Latched e) ops replies ∧ r'.state = .failed e ∧ r'.position = r.position := by
  obtain ⟨replies', r₁, hops, hlasts, hreplies⟩ := history_latched (latched?_failed h) (seekLatched?_failed h) ops
  rw [hops] at hrun
  obtain ⟨rfl, heq⟩ := hrun
  obtain ⟨rfl, rfl⟩ := Prod.mk.inj heq
  refine ⟨rfl, hreplies.imp fun op reply hreply => ?_, hlasts.state.trans h, hlasts.position⟩
  obtain ⟨closed, rfl⟩ := hreply
  exact latched_lateReply e closed op

/-- **A failure at the chunk is final.** After a read that failed at its chunk no operation reaches the
store or moves the position, and all of them answer the error of that read, whether or not the reader is
closed in between, but for arguments that are refused before the latch is looked at, and for a drain where
the error is the end of the stream. -/
theorem failure_latched {r₁ r₂ : Reader} {es' : List Exchange} {ops : List ReaderOp}
    {replies : List ReaderReply} (hread : (r.read room).Ends es (.error e, r₁))
    (hfailure : ChunkFailure r es e) (hlater : (r₁.history ops).Ends es' (replies, r₂)) :
    es' = [] ∧ List.Forall₂ (Latched e) ops replies ∧ r₂.state = .failed e ∧
      r₂.position = r₁.position :=
  history_failed (hfailure.failed hread) hlater

/-- The reader of a file of three bytes in one chunk, which is missing from the store: after the read that
wants it, a seek, a drain of the closed reader and another read all answer `notFound`. -/
theorem failure_latched_missing_chunk :
    let r := new .own 3 [.ofNat 7]
    let es : List Exchange := [⟨.race .own (.findChunk (.ofNat 7)), .finished (.ok none)⟩,
      ⟨.count .fetchChunk false, ()⟩]
    let r' := { r with state := .failed .notFound }
    let ops : List ReaderOp := [.seekNumbered 0 1, .close, .readToEnd, .read 4]
    let replies : List ReaderReply :=
      [.seek (.error .notFound), .close (.ok ()), .content (.error .notFound), .read (.error .notFound)]
    (r.read 4).Ends es (.error .notFound, r') ∧ ChunkFailure r es .notFound ∧
      (r'.history ops).Ends [] (replies, { r' with closed := true }) ∧
      List.Forall₂ (Latched .notFound) ops replies := by
  intro r es r' ops replies
  have hread : (r.read 4).Ends es (.error .notFound, r') :=
    ⟨_, _, rfl, ⟨_, _, rfl, rfl, rfl⟩⟩
  have hfailure : ChunkFailure r es .notFound := .missing List.mem_cons_self
  have hlater : (r'.history ops).Ends [] (replies, { r' with closed := true }) := ⟨rfl, rfl⟩
  exact ⟨hread, hfailure, hlater, (failure_latched hread hfailure hlater).2.1⟩

/-- **A refused argument is refused before the latch is looked at.** The store has no such chunk, and the
read that wants it fails with `notFound`; a seek with an unknown origin and one beyond all positions then
answer otherwise. -/
theorem refusal_outranks_failure :
    ∃ r₁, ((Bench.new (.memory .empty)).run ((Reader.new .own 3 [.ofNat 7]).read 4)).1 =
        (.error .notFound, r₁) ∧
      (r₁.seekNumbered 0 3).1 = .error (.unexpectedWhence 3) ∧
      (r₁.seekTo (.start 9223372036854775808)).1 = .error .invalidPosition :=
  ⟨_, rfl, rfl, rfl⟩

end Reader
end ChunkVault
