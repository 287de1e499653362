/-
# ChunkVault.Proofs.Bookkeeping -- what a reader notes down is right

A reader notes where it stands, whether it has come to the end, which chunk it has at hand and for which place, and
whether it was closed. `Reader.InOrder` says what these notes mean, by the size and the ids that the reader was made
with and by what the store has answered so far: the store may answer anything, and the token fire at any time.

Two of the notes depend on each other. A closed reader has nothing at hand because none of its reads gets as far as
its chunk, and what a read has fetched it puts at hand only if it is open (`read_leaves`). All else that an operation
does moves the reader (`Reader.Moved`), which leaves the chunk at hand and is no fetch.

The position needs more than that: that it is not negative after a read holds in numbers without bounds, and in words
of 64 bits because no sum leaves them. `Machine.reader_inOrder` is about the reader of a machine.
-/
import ChunkVault.Proofs.Caching
import ChunkVault.Proofs.Machine

namespace ChunkVault

open Program

/-! ## The last fetch -/

/-- The chunk that a call has fetched, with the id that it was fetched by. -/
def CallRecord.fetched? : CallRecord → Option (Uuid × Bytes)
  | ⟨.findChunk id, some (.ok (some chunk))⟩ => some (id, chunk)
  | _ => none

/-- The chunk that was fetched last, with its id. -/
def lastFetched? (es : List Exchange) : Option (Uuid × Bytes) := ((calls es).filterMap CallRecord.fetched?).getLast?

theorem lastFetched?_append (es fs : List Exchange) :
    lastFetched? (es ++ fs) = (lastFetched? fs).or (lastFetched? es) := by
  unfold lastFetched?
  rw [calls_append, List.filterMap_append, List.getLast?_append]

/-- A fetch that is counted brings what it has come to, if that is a chunk. -/
theorem lastFetched?_fetch (token : Token) (id : Uuid) (race : Race (Except StorageError (Option Bytes)))
    {counts : List Exchange} (hcounts : ∀ x ∈ counts, ∃ method failed, x = ⟨.count method failed, ()⟩) :
    lastFetched? (⟨.race token (.findChunk id), race⟩ :: counts) =
      race.outcome.toOption.join.map fun chunk => (id, chunk) := by
  unfold lastFetched?
  rw [calls_cons, calls_of_counts hcounts]
  match race with
  | .refused => rfl
  | .abandoned => rfl
  | .finished (.error e) => rfl
  | .finished (.ok none) => rfl
  | .finished (.ok (some chunk)) => rfl

namespace Reader

/-! ## What a read leaves -/

variable {r r' : Reader} {before es : List Exchange} {room : Nat} {size : Int} {ids : List Uuid} {e : StorageError}

theorem open_of_unlatched (h : r.latched? = none) : r.closed = false := by
  have hready := ready_of_unlatched h
  unfold latched? at h
  rw [hready] at h
  cases hclosed : r.closed with
  | false => rfl
  | true =>
    rw [hclosed] at h
    cases h

/-- **What a read leaves.** Either it has fetched nothing, and has moved the reader; or it has put at hand what it has
fetched for the place of the position, on an open reader, and moved that. -/
theorem read_leaves {result : Except StorageError ReadOutcome} (hrun : (r.read room).Ends es (result, r')) :
    (lastFetched? es = none ∧ r.Moved r') ∨
      ∃ id chunk, r.closed = false ∧ r.chunkIds[r.index]? = some id ∧ lastFetched? es = some (id, chunk) ∧
        Moved { r with cached := some ⟨r.index, chunk⟩ } r' := by
  by_cases hreach : r.Reaches
  · have hread := hreach.readRun hrun
    generalize hanswer : (result, r') = answer at hread
    obtain rfl : answer.2 = r' := congrArg Prod.snd hanswer.symm
    cases hread with
    | atHand _ => exact .inl ⟨rfl, r.deliver_moved _ room⟩
    | outOfRange _ _ => exact .inl ⟨rfl, ⟨rfl, rfl, rfl, rfl⟩⟩
    | @fetched id race counts _ hid hcounts =>
      rw [lastFetched?_fetch r.token id race hcounts]
      match race.outcome with
      | .error e => exact .inl ⟨rfl, ⟨rfl, rfl, rfl, rfl⟩⟩
      | .ok none => exact .inl ⟨rfl, ⟨rfl, rfl, rfl, rfl⟩⟩
      | .ok (some chunk) =>
        exact .inr ⟨id, chunk, open_of_unlatched hreach.unlatched, hid, rfl, deliver_moved _ chunk room⟩
  · obtain ⟨e, r₁, hback, hdone⟩ := read_unreached hreach room
    rw [hdone] at hrun
    obtain ⟨rfl, heq⟩ := hrun
    obtain ⟨-, rfl⟩ := Prod.mk.inj heq
    exact .inl ⟨rfl, by cases hback <;> exact ⟨rfl, rfl, rfl, rfl⟩⟩

/-! ## What a failure leaves -/

theorem deliver_error_position {chunk : Bytes} (h : r.deliver chunk room = (.error e, r')) :
    r'.position = r.position := by
  unfold deliver at h
  simp only at h
  split at h
  · obtain ⟨-, rfl⟩ := Prod.mk.inj h
    rfl
  · split at h <;> cases h

theorem arrive_error_position {found : Except StorageError (Option Bytes)}
    (h : r.arrive room found = (.error e, r')) : r'.position = r.position := by
  match found, h with
  | .error _, h =>
    obtain ⟨-, rfl⟩ := Prod.mk.inj h
    rfl
  | .ok none, h =>
    obtain ⟨-, rfl⟩ := Prod.mk.inj h
    rfl
  | .ok (some chunk), h =>
    have h : ({ r with cached := some ⟨r.index, chunk⟩ } : Reader).deliver chunk room = (.error e, r') := h
    exact (deliver_error_position h :)

/-- **A read that fails leaves the position**, wherever it fails. -/
theorem read_error_position (hrun : (r.read room).Ends es (.error e, r')) : r'.position = r.position := by
  by_cases hreach : r.Reaches
  · have hrun := hreach.readRun hrun
    generalize hanswer : ((.error e : Except StorageError ReadOutcome), r') = answer at hrun
    cases hrun with
    | atHand _ => exact deliver_error_position hanswer.symm
    | outOfRange _ _ =>
      obtain ⟨-, rfl⟩ := Prod.mk.inj hanswer
      rfl
    | fetched _ _ _ => exact arrive_error_position hanswer.symm
  · obtain ⟨e', r₁, hback, hdone⟩ := read_unreached hreach room
    rw [hdone] at hrun
    obtain ⟨-, rfl⟩ := Prod.mk.inj hrun.2
    cases hback <;> rfl

/-- A seek that fails leaves the reader. -/
theorem seek_error {offset : Int} {whence : Whence} (h : errorOf? (r.seek offset whence).1 ≠ none) :
    (r.seek offset whence).2 = r := by
  unfold seek at h ⊢
  split at h
  · rfl
  · simp only at h ⊢
    split at h
    · exact absurd rfl h
    · next htarget => rw [if_neg htarget]

theorem seekNumbered_error {offset whence : Int} (h : errorOf? (r.seekNumbered offset whence).1 ≠ none) :
    (r.seekNumbered offset whence).2 = r := by
  unfold seekNumbered at h ⊢
  split at h
  · rfl
  · exact seek_error h

theorem seekTo_error {target : SeekTarget} (h : errorOf? (r.seekTo target).1 ≠ none) : (r.seekTo target).2 = r := by
  cases target with
  | start offset =>
    change errorOf? (r.seekUnsigned offset).1 ≠ none at h
    show (r.seekUnsigned offset).2 = r
    unfold seekUnsigned at h ⊢
    split at h
    · next hle => rw [if_pos hle, seek_error h]
    · next hlt => rw [if_neg hlt]
  | current offset => exact seek_error h
  | fromEnd offset => exact seek_error h

theorem close_error (h : errorOf? r.close.1 ≠ none) : r.close.2 = r := by
  unfold close at h ⊢
  split at h
  · next hclosed => rw [if_pos hclosed]
  · exact absurd rfl h

/-- **An operation that fails leaves the position**, but for a drain, which may have read something before. -/
theorem operate_error_position {op : ReaderOp} {reply : ReaderReply} (hop : op ≠ .readToEnd)
    (hrun : (r.operate op).Ends es (reply, r')) (herror : reply.error? ≠ none) : r'.position = r.position := by
  cases op with
  | read room =>
    obtain ⟨⟨result, r₁⟩, hread, heq⟩ := ends_bind_done.mp hrun
    obtain ⟨rfl, rfl⟩ := Prod.mk.inj heq
    cases result with
    | ok o => exact absurd rfl herror
    | error e => exact read_error_position hread
  | readToEnd => exact absurd rfl hop
  | seek offset whence =>
    obtain ⟨rfl, rfl⟩ := Prod.mk.inj hrun.2
    exact congrArg position (seek_error herror)
  | seekNumbered offset whence =>
    obtain ⟨rfl, rfl⟩ := Prod.mk.inj hrun.2
    exact congrArg position (seekNumbered_error herror)
  | seekTo target =>
    obtain ⟨rfl, rfl⟩ := Prod.mk.inj hrun.2
    exact congrArg position (seekTo_error herror)
  | close =>
    obtain ⟨rfl, rfl⟩ := Prod.mk.inj hrun.2
    exact congrArg position (close_error herror)

/-! ## The check of the position -/

/-- `Reader.read` without the check that the position is not negative. -/
def readUnchecked (r : Reader) (room : Nat) : Program (Except StorageError ReadOutcome × Reader) :=
  match r.latched? with
  | some e => return (.error e, r)
  | none =>
    if r.size ≤ r.position then return (.error .endOfStream, { r with state := .drained })
    else
      match r.cachedAt? r.index with
      | some content => return r.deliver content room
      | none => r.fetchAndDeliver room

theorem readUnchecked_eq (h : 0 ≤ r.position) (room : Nat) : r.readUnchecked room = r.read room := by
  unfold readUnchecked read
  cases r.latched? with
  | some e => rfl
  | none =>
    by_cases hsize : r.size ≤ r.position
    · exact (if_pos hsize).trans (if_pos hsize).symm
    · exact (if_neg hsize).trans ((if_neg hsize).trans (if_neg (Int.not_lt.mpr h))).symm

theorem read_nonneg {result : Except StorageError ReadOutcome} (h : 0 ≤ r.position)
    (hrun : (r.read room).Ends es (result, r')) : 0 ≤ r'.position := by
  cases result with
  | ok o =>
    rw [(read_ok hrun).position]
    exact Int.add_nonneg h (Int.natCast_nonneg _)
  | error e => rwa [read_error_position hrun]

theorem drainBy_readUnchecked (reads : Nat) (h : 0 ≤ r.position) :
    drainBy readUnchecked reads r = r.drainWithin reads := by
  induction reads generalizing r with
  | zero => rfl
  | succ reads ih =>
    unfold drainBy drainWithin
    rw [readUnchecked_eq h]
    refine bind_congr_of_ends fun es answer hread => ?_
    obtain ⟨result, r₁⟩ := answer
    cases result with
    | ok o => simp only [ih (read_nonneg h hread)]
    | error e => cases e <;> rfl

/-- **From a position that is not negative no read fails that check**, nor does any read of a drain. -/
theorem operateBy_readUnchecked (h : 0 ≤ r.position) (op : ReaderOp) :
    r.operateBy readUnchecked op = r.operate op := by
  cases op with
  | read room =>
    simp only [operateBy, readUnchecked_eq h]
    rfl
  | readToEnd =>
    simp only [operateBy, drainBy_readUnchecked _ h]
    rfl
  | _ => rfl

/-! ## The notes of a reader -/

/-- The notes of a reader are in order that was made with this size and these ids, after these exchanges. -/
structure InOrder (size : Int) (ids : List Uuid) (es : List Exchange) (r : Reader) : Prop where
  size : r.size = size
  chunkIds : r.chunkIds = ids
  nonneg : 0 ≤ r.position
  drained : r.state = .drained → r.size ≤ r.position
  /-- The chunk at hand is the one that was fetched last, and by the id at its place. -/
  cached : ∀ chunk, r.cached = some chunk →
    ∃ id, r.chunkIds[chunk.index]? = some id ∧ lastFetched? es = some (id, chunk.content)
  closed : r.closed = true → r.cached = none

namespace InOrder

theorem new (token : Token) (size : Int) (ids : List Uuid) : (new token size ids).InOrder size ids [] where
  size := rfl
  chunkIds := rfl
  nonneg := Int.le_refl 0
  drained := nofun
  cached := nofun
  closed := nofun

/-- A reader that is moved without a fetch keeps its notes in order, if the new ones are. -/
theorem moved (h : r.InOrder size ids before) (hmoved : r.Moved r') (hes : lastFetched? es = none)
    (hnonneg : 0 ≤ r'.position) (hdrained : r'.DrainedAtEnd) : r'.InOrder size ids (before ++ es) where
  size := hmoved.size.trans h.size
  chunkIds := hmoved.chunkIds.trans h.chunkIds
  nonneg := hnonneg
  drained := hdrained
  cached := by
    rw [hmoved.cached, hmoved.chunkIds, lastFetched?_append, hes, Option.none_or]
    exact h.cached
  closed := by
    rw [hmoved.closed, hmoved.cached]
    exact h.closed

/-- **A read keeps the notes in order.** -/
theorem read {result : Except StorageError ReadOutcome} (h : r.InOrder size ids before)
    (hrun : (r.read room).Ends es (result, r')) : r'.InOrder size ids (before ++ es) := by
  have hnonneg := read_nonneg h.nonneg hrun
  have hdrained := read_drainedAtEnd h.drained hrun
  obtain ⟨hes, hmoved⟩ | ⟨id, chunk, hopen, hid, hes, hmoved⟩ := read_leaves hrun
  · exact h.moved hmoved hes hnonneg hdrained
  · refine ⟨hmoved.size.trans h.size, hmoved.chunkIds.trans h.chunkIds, hnonneg, hdrained, ?_, ?_⟩
    · intro kept hkept
      obtain rfl := Option.some.inj (hmoved.cached.symm.trans hkept)
      rw [hmoved.chunkIds, lastFetched?_append, hes]
      exact ⟨id, hid, rfl⟩
    · intro hclosed
      rw [hmoved.closed] at hclosed
      exact absurd hclosed (Bool.eq_false_iff.mp hopen)

/-- **A seek keeps the notes in order.** -/
theorem seek (h : r.InOrder size ids before) (offset : Int) (whence : Whence) :
    (r.seek offset whence).2.InOrder size ids before := by
  have hnonneg : 0 ≤ (r.seek offset whence).2.position := by
    unfold Reader.seek
    split
    · exact h.nonneg
    · simp only
      split
      · next htarget => exact htarget.1
      · exact h.nonneg
  have hmoved : (r.seek offset whence).2.InOrder size ids (before ++ []) :=
    h.moved (r.seek_moved offset whence) rfl hnonneg (seek_drainedAtEnd h.drained offset whence)
  rwa [List.append_nil] at hmoved

/-- **A close keeps the notes in order.** -/
theorem close (h : r.InOrder size ids before) : r.close.2.InOrder size ids before := by
  unfold Reader.close
  split
  · exact h
  · exact ⟨h.size, h.chunkIds, h.nonneg, h.drained, nofun, fun _ => rfl⟩

theorem kept (size : Int) (ids : List Uuid) : Kept (InOrder size ids) :=
  ⟨read, fun offset whence h => h.seek offset whence, close⟩

end InOrder
end Reader

namespace Machine

/-- **The notes of a reader are in order**, over any store whose chunks are no longer than `chunkSize`. Take a file of
any size and fewer than `maxChunks` chunks and any history of operations in words of 64 bits. It does not fault; after
it the position is not negative, so that no read fails for that, nor one in a drain; the reader takes the end for
reached only where it is; the chunk at hand is what the last fetch that succeeded has brought for the id at its place;
and a closed reader has none. A read, a seek or a close that then fails leaves the position. -/
theorem reader_inOrder {token : Token} {size : Int} {ids : List Uuid} {ops : List ReaderOp} {es : List Exchange}
    {result : Option (List ReaderReply × Reader)} (hsize : Signed size) (hids : ids.length < maxChunks)
    (hops : ∀ op ∈ ops, op.Fits) (hes : ∀ x ∈ es, x.Fits)
    (hrun : (OptionT.run (history ops (.new token size ids))).Ends es result) :
    ∃ replies r, result = some (replies, r) ∧ r.InOrder size ids es ∧ r.position ≤ maxPosition ∧
      (∀ op, r.operateBy Reader.readUnchecked op = r.operate op) ∧
      ∀ op es' result', op.Fits → (∀ x ∈ es', x.Fits) → (OptionT.run (operate r op)).Ends es' result' →
        ∃ reply r', result' = some (reply, r') ∧
          (op ≠ .readToEnd → reply.error? ≠ none → r'.position = r.position) := by
  obtain ⟨hiff, hbounded⟩ := history_computes (.new hsize hids token) hops es hes
  obtain ⟨⟨replies, r⟩, rfl, hhistory⟩ := (hiff result).mp hrun
  have hr : r.InOrder size ids es := (Reader.InOrder.kept size ids).history (.new token size ids) hhistory
  have hr' : Bounded r := hbounded _ hhistory
  refine ⟨replies, r, rfl, hr, hr'.position, Reader.operateBy_readUnchecked hr.nonneg, ?_⟩
  intro op es' result' hop hes' hnext
  obtain ⟨hiff', -⟩ := operate_computes hr' hop es' hes'
  obtain ⟨⟨reply, r'⟩, rfl, hoperate⟩ := (hiff' result').mp hnext
  exact ⟨reply, r', rfl, fun hne herror => Reader.operate_error_position hne hoperate herror⟩

/-- Two of three bytes are read, and a seek to before the front is refused. The chunk stays at hand, the one that was
fetched for the only id; and a seek from an origin that there is not leaves the position too. -/
theorem reader_inOrder_two_bytes_read :
    let es : List Exchange := [⟨.race .own (.findChunk (.ofNat 7)), .finished (.ok (some [97, 98, 99]))⟩,
      ⟨.count .fetchChunk false, ()⟩]
    let replies : List ReaderReply := [.read (.ok ⟨[97, 98], false⟩), .seek (.error .invalidPosition)]
    let r : Reader := { Reader.new .own 3 [.ofNat 7] with position := 2, cached := some ⟨0, [97, 98, 99]⟩ }
    (OptionT.run (history [.read 2, .seek (-3) .current] (.new .own 3 [.ofNat 7]))).Ends es (some (replies, r)) ∧
      r.InOrder 3 [.ofNat 7] es ∧ lastFetched? es = some (.ofNat 7, [97, 98, 99]) ∧
      ∃ reply r', (OptionT.run (operate r (.seekNumbered 0 3))).Ends [] (some (reply, r')) ∧
        reply.error? = some (.unexpectedWhence 3) ∧ r'.position = 2 := by
  intro es replies r
  have hrun : (OptionT.run (history [.read 2, .seek (-3) .current] (.new .own 3 [.ofNat 7]))).Ends es
      (some (replies, r)) := ⟨_, _, rfl, _, _, rfl, rfl, rfl⟩
  have hops : ∀ op ∈ ([.read 2, .seek (-3) .current] : List ReaderOp), op.Fits :=
    List.forall_mem_cons.mpr ⟨trivial, List.forall_mem_singleton.mpr (by decide : Signed (-3))⟩
  have hes : ∀ x ∈ es, x.Fits :=
    List.forall_mem_cons.mpr ⟨(by decide : 3 ≤ chunkSize), List.forall_mem_singleton.mpr trivial⟩
  have hids : ([.ofNat 7] : List Uuid).length < maxChunks := by decide
  obtain ⟨_, _, heq, hr, -, -, hnext⟩ := reader_inOrder (by decide : Signed 3) hids hops hes hrun
  obtain ⟨rfl, rfl⟩ := Prod.mk.inj (Option.some.inj heq)
  have hseek : (OptionT.run (operate r (.seekNumbered 0 3))).Ends [] (some (.seek (.error (.unexpectedWhence 3)), r)) :=
    ⟨rfl, rfl⟩
  have hop : (ReaderOp.seekNumbered 0 3).Fits := (by decide : Signed 0)
  obtain ⟨_, _, heq', hleft⟩ := hnext _ [] _ hop nofun hseek
  obtain ⟨rfl, rfl⟩ := Prod.mk.inj (Option.some.inj heq')
  exact ⟨hrun, hr, rfl, _, _, hseek, rfl, hleft nofun nofun⟩

end Machine
end ChunkVault
