/-
# ChunkVault.Proofs.Progress -- drains come to an end, and not before the content does

A store may answer each fetch as it likes: chunks may be missing, too short, empty or too long, and a chunk may
be another one the next time it is fetched. A read still fails or hands out a byte at least (`read_ok`). So the
number of bytes between the position and the end bounds the reads of a drain (`drainUpTo_eq`), which goes on as each
of them goes (`drainRun_of_ends`). And a reader finds the end nowhere but at the end (`read_endOfStream`), so that a
drain that ends without an error has handed out all of those bytes (`drainWithin_complete`).

That needs two things. The reader has not failed before, and no fetch is answered with the end of the stream for
its error: a reader cannot tell that one from an end of its own. Beside them, memory is taken to be there for all that
the size says is left, which a drain sets aside first (`readToEnd`).
-/
import ChunkVault.Proofs.Latch
import ChunkVault.Proofs.Layout

namespace ChunkVault

open Program

/-- The error that a reader makes of what its fetch has come to, if it makes one. -/
def fetchError? : Except StorageError (Option Bytes) → Option StorageError
  | .error e => some e
  | .ok none => some .notFound
  | .ok (some _) => none

/-- The error that a fetch of a chunk has come to, if it has come to one. -/
def Exchange.fetchError? : Exchange → Option StorageError
  | ⟨.race _ (.findChunk _), race⟩ => ChunkVault.fetchError? race.outcome
  | _ => none

namespace Reader

variable {r r' : Reader} {es : List Exchange} {room : Nat} {o : ReadOutcome}

/-! ## What a read comes to -/

/-- A read that succeeds: it was made before the end, and has moved the position by the bytes that it hands out,
of which there is one at least if there is room for it. The end is found when the position has reached it. -/
structure Advances (r : Reader) (room : Nat) (o : ReadOutcome) (r' : Reader) : Prop where
  inside : r.position < r.size
  within : o.content.length ≤ room
  progress : 0 < room → 0 < o.content.length
  position : r'.position = r.position + o.content.length
  size : r'.size = r.size
  endOfStream : o.endOfStream = decide (r.size ≤ r'.position)
  state : r'.state = if r.size ≤ r'.position then .drained else .ready

theorem ready_of_unlatched (h : r.latched? = none) : r.state = .ready := by
  unfold latched? at h
  split at h
  · cases h
  · cases h
  · assumption

theorem deliver_ok {chunk : Bytes} (hready : r.state = .ready) (hinside : r.position < r.size)
    (h : r.deliver chunk room = (.ok o, r')) : r.Advances room o r' := by
  unfold deliver at h
  simp only at h
  split at h
  · cases h
  · next hfull =>
    have hwithin : ((chunk.drop r.offset).take room).length ≤ room := List.length_take_le ..
    have hprogress : 0 < room → 0 < ((chunk.drop r.offset).take room).length := by
      intro hroom
      have hne : chunk.drop r.offset ≠ [] := by
        intro hnil
        simp [hnil, Nat.ne_of_gt hroom] at hfull
      have hpos := List.length_pos_iff.mpr hne
      rw [List.length_take]
      omega
    split at h
    · next hend =>
      cases h
      exact ⟨hinside, hwithin, hprogress, rfl, rfl, (decide_eq_true hend).symm, (if_pos hend).symm⟩
    · next hend =>
      cases h
      refine ⟨hinside, hwithin, hprogress, rfl, rfl, (decide_eq_false hend).symm, ?_⟩
      rw [if_neg hend]
      exact hready

/-- **A read that succeeds makes progress.** -/
theorem read_ok (hrun : (r.read room).Ends es (.ok o, r')) : r.Advances room o r' := by
  by_cases hreach : r.Reaches
  · have hready := ready_of_unlatched hreach.unlatched
    have hrun := hreach.readRun hrun
    generalize hresult : ((.ok o : Except StorageError ReadOutcome), r') = result at hrun
    cases hrun with
    | atHand _ => exact deliver_ok hready hreach.inside hresult.symm
    | outOfRange _ _ => cases hresult
    | @fetched id race rest _ _ _ =>
      generalize race.outcome = outcome at hresult
      cases outcome with
      | error e => cases hresult
      | ok found =>
        cases found with
        | none => cases hresult
        | some chunk =>
          -- with the chunk at hand the reader is the same in all that counts here
          have h : ({ r with cached := some ⟨r.index, chunk⟩ } : Reader).Advances room o r' :=
            deliver_ok hready hreach.inside hresult.symm
          exact ⟨h.inside, h.within, h.progress, h.position, h.size, h.endOfStream, h.state⟩
  · obtain ⟨e, r₁, -, hdone⟩ := read_unreached hreach room
    rw [hdone] at hrun
    cases hrun.2

/-- A reader takes the end for reached only where it is. -/
def DrainedAtEnd (r : Reader) : Prop := r.state = .drained → r.size ≤ r.position

/-- No read of the reader has failed at its chunk. -/
def Unfailed (r : Reader) : Prop := ∀ e, r.state ≠ .failed e

theorem Advances.drainedAtEnd (h : r.Advances room o r') : r'.DrainedAtEnd := by
  intro hdrained
  rw [h.state] at hdrained
  split at hdrained
  · next hend => rwa [h.size]
  · cases hdrained

theorem Advances.unfailed (h : r.Advances room o r') : r'.Unfailed := by
  intro e hfailed
  rw [h.state] at hfailed
  split at hfailed <;> cases hfailed

/-- What a read hands out comes off what is left. -/
theorem Advances.remaining (h : r.Advances room o r') :
    r'.remaining = r.remaining - o.content.length ∧ 0 < r.remaining := by
  have hinside := h.inside
  rw [Reader.remaining, Reader.remaining, h.size, h.position]
  omega

/-- **The end is found at the end.** A read that reports it was made there, unless the reader had failed with it,
or a fetch did. -/
theorem read_endOfStream (hr : r.DrainedAtEnd) (hunfailed : r.Unfailed)
    (hrun : (r.read room).Ends es (.error .endOfStream, r'))
    (hes : ∀ x ∈ es, x.fetchError? ≠ some .endOfStream) : r.size ≤ r.position := by
  by_cases hreach : r.Reaches
  · cases (hreach.chunkFailure hrun).1 with
    | fetch hmem => exact absurd rfl (hes _ hmem)
  · obtain ⟨e, r₁, hback, hdone⟩ := read_unreached hreach room
    rw [hdone] at hrun
    obtain ⟨heq, -⟩ := Prod.mk.inj hrun.2
    obtain rfl := Except.error.inj heq
    cases hback with
    | latched hlatched =>
      unfold latched? at hlatched
      split at hlatched
      · next e' hfailed => exact absurd hfailed (hunfailed e')
      · next hdrained => exact hr hdrained
      · split at hlatched <;> cases hlatched
    | atEnd hsize => exact hsize

/-! ## How a drain goes -/

/-- How a drain goes that may make so many reads after its first one, by what that one comes to. -/
inductive DrainRun (r : Reader) (most : Nat) : List Exchange → Except StorageError Bytes → Reader → Prop
  /-- The read brings the last bytes. -/
  | last {es : List Exchange} {o : ReadOutcome} {r' : Reader} (hread : (r.read chunkSize).Ends es (.ok o, r'))
      (hend : o.endOfStream = true) : DrainRun r most es (.ok o.content) r'
  /-- The read brings bytes, and the drain goes on. -/
  | more {es₁ es₂ : List Exchange} {o : ReadOutcome} {r₁ r' : Reader} {rest : Except StorageError Bytes}
      (hread : (r.read chunkSize).Ends es₁ (.ok o, r₁)) (hend : o.endOfStream = false)
      (hrest : (r₁.drainWithin most).Ends es₂ (rest, r')) :
      DrainRun r most (es₁ ++ es₂) (rest.map (o.content ++ ·)) r'
  /-- The read fails, and so does the drain, unless that is the end of the content. -/
  | failed {es : List Exchange} {e : StorageError} {r' : Reader} (hread : (r.read chunkSize).Ends es (.error e, r')) :
      DrainRun r most es (if e = .endOfStream then .ok [] else .error e) r'

/-- **A drain** goes on as its first read goes. -/
theorem drainRun_of_ends {most : Nat} {result : Except StorageError Bytes}
    (hrun : (r.drainWithin (most + 1)).Ends es (result, r')) : r.DrainRun most es result r' := by
  unfold drainWithin at hrun
  simp only [bind_eq, ends_bind] at hrun
  obtain ⟨es₁, es₂, ⟨answer, r₁⟩, rfl, hread, hrun⟩ := hrun
  cases answer with
  | ok o =>
    cases hend : o.endOfStream with
    | true =>
      simp only [hend, if_true] at hrun
      obtain ⟨rfl, heq⟩ := hrun
      obtain ⟨rfl, rfl⟩ := Prod.mk.inj heq
      rw [List.append_nil]
      exact .last hread hend
    | false =>
      simp only [hend, Bool.false_eq_true, if_false] at hrun
      obtain ⟨⟨rest, r₂⟩, hrest, heq⟩ := ends_bind_done.mp hrun
      obtain ⟨rfl, rfl⟩ := Prod.mk.inj heq
      exact .more hread hend hrest
  | error e =>
    have hdone : es₂ = [] ∧ (result, r') = (if e = .endOfStream then .ok [] else .error e, r₁) := by
      cases e <;> exact hrun
    obtain ⟨rfl, heq⟩ := hdone
    obtain ⟨rfl, rfl⟩ := Prod.mk.inj heq
    rw [List.append_nil]
    exact .failed hread

/-! ## Histories -/

/-- What is true of a reader after the exchanges so far, and what each read, seek and close keeps true. -/
structure Kept (I : List Exchange → Reader → Prop) : Prop where
  read : ∀ {before es : List Exchange} {r r' : Reader} {room : Nat} {result : Except StorageError ReadOutcome},
    I before r → (r.read room).Ends es (result, r') → I (before ++ es) r'
  seek : ∀ {before : List Exchange} {r : Reader} (offset : Int) (whence : Whence), I before r →
    I before (r.seek offset whence).2
  close : ∀ {before : List Exchange} {r : Reader}, I before r → I before r.close.2

namespace Kept

variable {I : List Exchange → Reader → Prop} {before : List Exchange}

theorem seekNumbered (h : Kept I) (hr : I before r) (offset : Int) (whence : Int) :
    I before (r.seekNumbered offset whence).2 := by
  unfold Reader.seekNumbered
  split
  · exact hr
  · exact h.seek offset _ hr

theorem seekTo (h : Kept I) (hr : I before r) (target : SeekTarget) : I before (r.seekTo target).2 := by
  cases target with
  | start offset =>
    show I before (r.seekUnsigned offset).2
    unfold seekUnsigned
    split
    · exact h.seek offset .start hr
    · exact hr
  | current offset => exact h.seek offset .current hr
  | fromEnd offset => exact h.seek offset .fromEnd hr

/-- A drain keeps it: it is a run of reads. -/
theorem drainWithin (h : Kept I) {most : Nat} {result : Except StorageError Bytes} (hr : I before r)
    (hrun : (r.drainWithin most).Ends es (result, r')) : I (before ++ es) r' := by
  induction most generalizing before r es result with
  | zero =>
    obtain ⟨rfl, heq⟩ := hrun
    obtain ⟨-, rfl⟩ := Prod.mk.inj heq
    rwa [List.append_nil]
  | succ most ih =>
    cases drainRun_of_ends hrun with
    | last hread _ => exact h.read hr hread
    | failed hread => exact h.read hr hread
    | more hread _ hrest =>
      rw [← List.append_assoc]
      exact ih (h.read hr hread) hrest

/-- **What reads, seeks and closes keep, every operation keeps.** -/
theorem operate (h : Kept I) {op : ReaderOp} {reply : ReaderReply} (hr : I before r)
    (hrun : (r.operate op).Ends es (reply, r')) : I (before ++ es) r' := by
  cases op with
  | read room =>
    obtain ⟨⟨result, r₁⟩, hread, heq⟩ := ends_bind_done.mp hrun
    obtain ⟨-, rfl⟩ := Prod.mk.inj heq
    exact h.read hr hread
  | readToEnd =>
    obtain ⟨⟨result, r₁⟩, hdrain, heq⟩ := ends_bind_done.mp hrun
    obtain ⟨-, rfl⟩ := Prod.mk.inj heq
    exact h.drainWithin hr hdrain
  | seek offset whence =>
    obtain ⟨rfl, heq⟩ := hrun
    obtain ⟨-, rfl⟩ := Prod.mk.inj heq
    rw [List.append_nil]
    exact h.seek offset whence hr
  | seekNumbered offset whence =>
    obtain ⟨rfl, heq⟩ := hrun
    obtain ⟨-, rfl⟩ := Prod.mk.inj heq
    rw [List.append_nil]
    exact h.seekNumbered hr offset whence
  | seekTo target =>
    obtain ⟨rfl, heq⟩ := hrun
    obtain ⟨-, rfl⟩ := Prod.mk.inj heq
    rw [List.append_nil]
    exact h.seekTo hr target
  | close =>
    obtain ⟨rfl, heq⟩ := hrun
    obtain ⟨-, rfl⟩ := Prod.mk.inj heq
    rw [List.append_nil]
    exact h.close hr

/-- **And so does every history.** -/
theorem history_append (h : Kept I) {ops : List ReaderOp} {replies : List ReaderReply} (hr : I before r)
    (hrun : (r.history ops).Ends es (replies, r')) : I (before ++ es) r' := by
  induction ops generalizing before r es replies with
  | nil =>
    obtain ⟨rfl, heq⟩ := hrun
    obtain ⟨-, rfl⟩ := Prod.mk.inj heq
    rwa [List.append_nil]
  | cons op ops ih =>
    obtain ⟨es₁, es₂, ⟨reply, r₁⟩, rfl, hop, hrun⟩ := ends_bind.mp hrun
    obtain ⟨⟨rest, r₂⟩, hrest, heq⟩ := ends_bind_done.mp hrun
    obtain ⟨-, rfl⟩ := Prod.mk.inj heq
    rw [← List.append_assoc]
    exact ih (h.operate hr hop) hrest

/-- What is true before anything is asked is true after a history. -/
theorem history (h : Kept I) {ops : List ReaderOp} {replies : List ReaderReply} (hr : I [] r)
    (hrun : (r.history ops).Ends es (replies, r')) : I es r' :=
  h.history_append hr hrun

end Kept

theorem read_drainedAtEnd {result : Except StorageError ReadOutcome} (hr : r.DrainedAtEnd)
    (hrun : (r.read room).Ends es (result, r')) : r'.DrainedAtEnd := by
  cases result with
  | ok o => exact (read_ok hrun).drainedAtEnd
  | error e =>
    by_cases hreach : r.Reaches
    · intro hdrained
      rw [(hreach.chunkFailure hrun).2] at hdrained
      cases hdrained
    · obtain ⟨e', r₁, hback, hdone⟩ := read_unreached hreach room
      rw [hdone] at hrun
      obtain ⟨-, rfl⟩ := Prod.mk.inj hrun.2
      cases hback with
      | latched _ => exact hr
      | atEnd hsize => exact fun _ => hsize
      | negative _ => exact hr

theorem seek_drainedAtEnd (hr : r.DrainedAtEnd) (offset : Int) (whence : Whence) :
    (r.seek offset whence).2.DrainedAtEnd := by
  unfold seek
  split
  · exact hr
  · simp only
    split
    · exact nofun
    · exact hr

theorem close_drainedAtEnd (hr : r.DrainedAtEnd) : r.close.2.DrainedAtEnd := by
  unfold close
  split <;> exact hr

/-- **A history** on a reader that takes the end for reached only where it is. -/
theorem history_drainedAtEnd {ops : List ReaderOp} {replies : List ReaderReply} (hr : r.DrainedAtEnd)
    (hrun : (r.history ops).Ends es (replies, r')) : r'.DrainedAtEnd :=
  have hkept : Kept fun _ r => r.DrainedAtEnd :=
    ⟨read_drainedAtEnd, fun offset whence hr => seek_drainedAtEnd hr offset whence, close_drainedAtEnd⟩
  hkept.history hr hrun

/-! ## Drains -/

/-- Reads whole chunks until the end, as a drain does; nothing if so many reads do not bring it to its end. -/
def drainUpTo : (reads : Nat) → Reader → Program (Option (Except StorageError Bytes × Reader))
  | 0, _ => return none
  | reads + 1, r => do
    match ← r.read chunkSize with
    | (.ok outcome, r) =>
      if outcome.endOfStream then return some (.ok outcome.content, r)
      else
        let drained ← drainUpTo reads r
        return drained.map fun (rest, r) => (rest.map (outcome.content ++ ·), r)
    | (.error .endOfStream, r) => return some (.ok [], r)
    | (.error e, r) => return some (.error e, r)

/-- **A drain needs no more reads than there are bytes left, and one.** It comes to its end within any number
of reads that is greater, and to the same end within all of them, whatever the store answers. -/
theorem drainUpTo_eq {reads most : Nat} (hreads : r.remaining < reads) (hmost : r.remaining < most) :
    r.drainUpTo reads = (r.drainWithin most).bind fun answer => .done (some answer) := by
  -- along the reads: one after which the drain goes on leaves fewer bytes
  induction reads generalizing r most with
  | zero => exact absurd hreads (Nat.not_lt_zero _)
  | succ reads ih =>
    obtain ⟨most, rfl⟩ : ∃ n, most = n + 1 := ⟨most - 1, by omega⟩
    unfold drainUpTo drainWithin
    simp only [bind_eq, bind_assoc]
    refine bind_congr_of_ends fun es answer hread => ?_
    obtain ⟨result, r₁⟩ := answer
    cases result with
    | error e => cases e <;> rfl
    | ok o =>
      obtain ⟨hleft, hsome⟩ := (read_ok hread).remaining
      have hpos := (read_ok hread).progress chunkSize_pos
      simp only
      split
      · rfl
      · have hless : r₁.remaining < reads ∧ r₁.remaining < most := by omega
        rw [ih hless.1 hless.2, bind_assoc, bind_assoc]
        rfl

/-- **A drain that ends without an error has handed out all that was left**, or more where chunks are too
long. -/
theorem drainWithin_complete {most : Nat} {got : Bytes} (hr : r.DrainedAtEnd) (hunfailed : r.Unfailed)
    (hmost : r.remaining < most) (hrun : (r.drainWithin most).Ends es (.ok got, r'))
    (hes : ∀ x ∈ es, x.fetchError? ≠ some .endOfStream) : r.remaining ≤ got.length := by
  induction most generalizing r es got with
  | zero => exact absurd hmost (Nat.not_lt_zero _)
  | succ most ih =>
    generalize hresult : (.ok got : Except StorageError Bytes) = result at hrun
    cases drainRun_of_ends hrun with
    | @last _ o _ hread hend =>
      -- the read has reached the end
      have hadvances := read_ok hread
      obtain ⟨hleft, hsome⟩ := hadvances.remaining
      obtain rfl := Except.ok.inj hresult
      rw [hadvances.endOfStream, decide_eq_true_eq, ← hadvances.size] at hend
      have hnone : r'.remaining = 0 := by rw [remaining]; omega
      omega
    | @more es₁ es₂ o r₁ _ rest hread _ hrest =>
      have hadvances := read_ok hread
      obtain ⟨hleft, hsome⟩ := hadvances.remaining
      have hpos := hadvances.progress chunkSize_pos
      cases rest with
      | error e => cases hresult
      | ok more =>
        obtain rfl := Except.ok.inj hresult
        have hmore := ih hadvances.drainedAtEnd hadvances.unfailed (by omega) hrest fun x hx =>
          hes x (List.mem_append_right _ hx)
        rw [List.length_append]
        omega
    | @failed _ e _ hread =>
      by_cases he : e = .endOfStream
      · subst he
        have hend := read_endOfStream hr hunfailed hread hes
        rw [remaining]
        omega
      · rw [if_neg he] at hresult
        cases hresult

end Reader
end ChunkVault
