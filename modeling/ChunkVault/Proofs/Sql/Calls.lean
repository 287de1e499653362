/-
# ChunkVault.Proofs.Sql.Calls -- every call is served alike

A store in memory and a store on a relational database keep their transactions in different ways. One lets
the writes wait and applies them all at the commit; the other executes each of them at once, on a copy that
the commit puts in the place of the rows. What ties them together is the replay of the waiting writes: the
copy is what the tables would be if the transaction were committed now.

The stamp of a finished file is the one thing in which the two differ for a while. In memory it is that of
the commit, in the database that of the finish. So until the finish the copy corresponds to the replay at
whatever moment (`Drafting`), and from then on to the replay at this moment, under a matching that pairs the
stamp of the finish with that of the commit to come (`Drafted`).
-/
import ChunkVault.Proofs.Sql.Lockstep

namespace ChunkVault

open Memory

/-! ## What is replayed -/

namespace Memory.Store

variable {s : Store}

/-- The tables as they would be if the transaction were committed at this moment. -/
def replay (s : Store) (tx : TxId) (now : Timestamp) : Tables := (s.transaction tx).apply now s.tables

/-- Serving a call keeps every id in its place. -/
theorem Unmixed.serve (h : s.Unmixed) (q : Request) (hids : (s.serve q).2.issued ≤ Uuid.issueCount) :
    (s.serve q).2.Unmixed := by
  have hmade : Made (fun _ => False) ⟨q, some (s.serve q).1⟩ s (s.serve q).2 := .inl ⟨rfl, rfl⟩
  exact hmade.unmixed h hids

/-- The id that is issued next is new to the replay of every transaction. -/
theorem Unmixed.issue_unused (h : s.Unmixed) (hids : s.issued + 1 ≤ Uuid.issueCount) (tx : TxId)
    (now : Timestamp) : Uuid.issue s.issued ∉ (s.replay tx now).rowIds := by
  have hnew : Uuid.issue s.issued ∈ issuedBetween s.issued (s.issued + 1) := by
    rw [issuedBetween_succ]
    exact List.mem_singleton_self _
  intro hmem
  rcases rowIds_apply_all hmem with hrow | hwaits
  · exact not_hasIssued hids hnew (h.rows _ hrow)
  · exact not_hasIssued hids hnew (h.issued tx _ hwaits)

theorem replay_begin (s : Store) (now : Timestamp) : s.begin.2.replay s.nextTx now = s.tables := by
  rw [replay, transaction_begin, if_pos rfl]
  rfl

theorem replay_push {tx : TxId} (h : s.isOpen tx = true) (now : Timestamp) (w : Write) :
    (s.push tx w).replay tx now = w.apply now (s.replay tx now) := apply_pushed h now w

/-- A file is in sight of a transaction if the replay has it. -/
theorem Sees.hasFile {tx : TxId} {file : Uuid} (h : s.Sees tx file) (now : Timestamp) :
    file ∈ (s.replay tx now).files.map (·.id) := by
  rw [← Tables.Alike.hasFile_iff, replay, ← Transaction.fileVisible_eq_hasFile]
  exact h.visible

end Memory.Store

/-! ## What is known of the stores -/

/-- **What holds of the two stores at all times.** The committed rows correspond, and each clock is past all
stamps of its side. -/
structure Paired (n : Nat) (τ : Stamps) (s : Memory.Store) (d : Sql.Store Sql.Relational) : Prop where
  tables : s.tables.Alike (Uuid.shift n) τ d.db.committed
  issued : d.issued = n + s.issued
  stamps : τ.Before s.clock d.clock
  faults : s.faults = .none
  unmixed : s.Unmixed

/-- No transaction is open in the database. -/
structure Idle (n : Nat) (τ : Stamps) (s : Memory.Store) (d : Sql.Store Sql.Relational) : Prop
    extends Paired n τ s d where
  closed : d.db.opened = none

/-- A transaction is open that has finished no file: its copy corresponds to the replay, whenever it may be
committed. -/
structure Drafting (n : Nat) (tx tx' : TxId) (τ : Stamps) (s : Memory.Store) (d : Sql.Store Sql.Relational) : Prop
    extends Paired n τ s d where
  isOpen : s.isOpen tx = true
  copy : ∃ rows, d.db.opened = some (tx', rows) ∧ ∀ now, (s.replay tx now).Alike (Uuid.shift n) τ rows

/-- Such a transaction has a new file in sight. -/
structure Writing (n : Nat) (tx tx' : TxId) (file : Uuid) (τ : Stamps) (s : Memory.Store)
    (d : Sql.Store Sql.Relational) : Prop extends Drafting n tx tx' τ s d where
  sees : s.Sees tx file

/-- A transaction is open that can be committed now. -/
structure Drafted (n : Nat) (tx tx' : TxId) (τ : Stamps) (s : Memory.Store) (d : Sql.Store Sql.Relational) : Prop
    extends Paired n τ s d where
  copy : ∃ rows τ', d.db.opened = some (tx', rows) ∧ τ ≤ τ' ∧ τ'.Before (s.clock + 1) d.clock ∧
    (s.replay tx s.now).Alike (Uuid.shift n) τ' rows

section Bonds

variable {n : Nat} {tx tx' : TxId} {τ τ' : Stamps} {s s' : Memory.Store} {d d' : Sql.Store Sql.Relational}

theorem Drafting.drafted (h : Drafting n tx tx' τ s d) : Drafted n tx tx' τ s d := by
  obtain ⟨rows, hopened, halike⟩ := h.copy
  exact ⟨h.toPaired, rows, τ, hopened, le_refl τ, h.stamps.mono (Nat.le_succ _) (Nat.le_refl _), halike s.now⟩

/-- What is left to say of the stores when a call has been served. -/
theorem Paired.served (h : Paired n τ s d) {q : Request} {o : q.Outcome} (hserve : s.serve q = (o, s'))
    (hids : s'.issued ≤ Uuid.issueCount) (htables : s'.tables.Alike (Uuid.shift n) τ' d'.db.committed)
    (hissued : d'.issued = n + s'.issued) (hstamps : τ'.Before s'.clock d'.clock) : Paired n τ' s' d' := by
  have hfaults := Memory.Store.serve_faults h.faults q
  have hunmixed := h.unmixed.serve q
  rw [hserve] at hfaults hunmixed
  exact ⟨htables, hissued, hstamps, hfaults, hunmixed hids⟩

/-- A write waits that changes the replay as the statement has changed the copy. -/
theorem Drafting.pushed (h : Drafting n tx tx' τ s d) {q : Request} {o : q.Outcome} {w : Write} {rows : Sql.Rows}
    (hserve : s.serve q = (o, s.push tx w)) (hids : (s.push tx w).issued ≤ Uuid.issueCount)
    (halike : ∀ now, (w.apply now (s.replay tx now)).Alike (Uuid.shift n) τ rows) :
    Drafting n tx tx' τ (s.push tx w) { d with db := d.withCopy tx' rows } := by
  refine ⟨h.toPaired.served hserve hids h.tables h.issued h.stamps, ?_, rows, rfl, fun now => ?_⟩
  · exact (Memory.Store.isOpen_push s tx w tx).trans h.isOpen
  · rw [Memory.Store.replay_push h.isOpen]
    exact halike now

/-- The next id of the database is the next one in memory, renamed. -/
theorem Paired.nextId (h : Paired n τ s d) : d.nextId = Uuid.shift n (Uuid.issue s.issued) := by
  rw [Uuid.shift_issue, ← h.issued]
  rfl

end Bonds

/-! ## Transactions -/

section Calls

variable {n : Nat} {tx tx' : TxId} {file : Uuid}

theorem begin_alike : CallsAlike (Idle n) .begin .begin (Concur (Drafting n) (Idle n)) := by
  intro τ s d h hids
  rw [Sql.Store.serve_begin h.closed]
  refine ⟨τ, le_refl τ, .ok ?_⟩
  refine ⟨h.toPaired.served (q := .begin) rfl hids h.tables h.issued h.stamps, ?_, _, rfl, fun now => ?_⟩
  · show s.begin.2.isOpen s.nextTx = true
    rw [Memory.Store.isOpen_begin, decide_eq_true rfl, Bool.true_or]
  · show (s.begin.2.replay s.nextTx now).Alike _ _ _
    rw [Memory.Store.replay_begin]
    exact h.tables

theorem commit_alike :
    CallsAlike (Drafted n tx tx') (.commit tx) (.commit tx') (Concur (fun _ _ => Idle n) (Idle n)) := by
  intro τ s d h hids
  obtain ⟨rows, τ', hopened, hτ, hstamps, halike⟩ := h.copy
  have hserve := Memory.Store.serve_commit_quiet h.faults tx
  rw [hserve] at hids ⊢
  rw [Sql.Store.serve_commit hopened]
  exact ⟨τ', hτ, .ok ⟨h.toPaired.served hserve hids halike h.issued hstamps, rfl⟩⟩

theorem rollback_alike :
    CallsAlike (Drafted n tx tx') (.rollback tx) (.rollback tx') (Concur (fun _ _ => Idle n) (Idle n)) := by
  intro τ s d h hids
  obtain ⟨rows, -, hopened, -⟩ := h.copy
  rw [Sql.Store.serve_rollback hopened]
  exact ⟨τ, le_refl τ, .ok ⟨h.toPaired.served (q := .rollback tx) rfl hids h.tables h.issued h.stamps, rfl⟩⟩

/-! ## Writes -/

theorem insertFile_alike :
    CallsAlike (Drafting n tx tx') (.insertFile tx) (.insertFile tx')
      (Concur (fun id id' τ s d => id' = Uuid.shift n id ∧ Writing n tx tx' id τ s d) (Drafting n tx tx')) := by
  intro τ s d h hids
  obtain ⟨rows, hopened, halike⟩ := h.copy
  -- the id is new to the copy, because it is new to the replay
  have hunused := h.unmixed.issue_unused (s := s) hids tx s.now
  have hnew : d.created.id ∉ rows.files.map (·.id) := by
    show d.nextId ∉ _
    rw [h.nextId, (halike s.now).mem_fileIds]
    exact fun hmem => hunused (List.mem_append_left _ hmem)
  obtain ⟨-, hsees⟩ := Memory.Store.insertFile_sees h.isOpen
  have hτ := Stamps.le_note h.stamps
  have hfile : FileRecord.Alike (Uuid.shift n) (τ.note h.stamps)
      ⟨Uuid.issue s.issued, 0, [], none, s.now, s.now⟩ d.created :=
    ⟨h.nextId, rfl, rfl, rfl, Stamps.match_note h.stamps, Stamps.match_note h.stamps⟩
  rw [Sql.Store.serve_insertFile hopened hnew]
  refine ⟨τ.note h.stamps, hτ, .ok ⟨h.nextId, ⟨?_, hsees.isOpen, _, rfl, fun now => ?_⟩, hsees⟩⟩
  · exact h.toPaired.served (q := .insertFile tx) rfl hids (h.tables.mono hτ) (congrArg (· + 1) h.issued)
      (Stamps.before_note h.stamps)
  · show ((s.push tx _).replay tx now).Alike _ _ _
    rw [Memory.Store.replay_push h.isOpen]
    exact ((halike now).mono hτ).insertFile hfile hnew

theorem insertChunk_alike {bytes : Bytes} (hbytes : bytes.isEmpty = false) :
    CallsAlike (Writing n tx tx' file) (.insertChunk tx file bytes) (.insertChunk tx' (Uuid.shift n file) bytes)
      (Concur (fun id id' τ s d => id' = Uuid.shift n id ∧ Writing n tx tx' file τ s d)
        (Drafting n tx tx')) := by
  intro τ s d h hids
  obtain ⟨rows, hopened, halike⟩ := h.copy
  have hserve := Memory.Store.serve_insertChunk_quiet h.faults h.sees bytes
  have hsees := (Memory.Store.insertChunk_sees h.faults h.sees bytes).2
  rw [hserve] at hids hsees ⊢
  -- the id is new to the copy, and the copy has the file
  have hunused := h.unmixed.issue_unused (s := s) hids tx s.now
  have hnew : d.nextId ∉ rows.chunks.map (·.chunk.id) := by
    rw [h.nextId, (halike s.now).mem_chunkIds]
    exact fun hmem => hunused (List.mem_append_right _ hmem)
  have howner : Uuid.shift n file ∈ rows.files.map (·.id) :=
    ((halike s.now).mem_fileIds file).mpr (h.sees.hasFile s.now)
  rw [Sql.Store.serve_insertChunk hopened hbytes hnew howner]
  refine ⟨τ, le_refl τ, .ok ⟨h.nextId, ⟨?_, hsees.isOpen, _, rfl, fun now => ?_⟩, hsees⟩⟩
  · exact h.toPaired.served hserve hids h.tables (congrArg (· + 1) h.issued)
      (h.stamps.mono (Nat.le_refl _) (Nat.le_succ _))
  · have hreplay : (s.withChunk tx file bytes).replay tx now =
        (s.replay tx now).insertChunk ⟨Uuid.issue s.issued, file, bytes⟩ :=
      Memory.Store.apply_withChunk h.isOpen now
    have hchunk : ChunkRecord.Alike (Uuid.shift n) ⟨Uuid.issue s.issued, file, bytes⟩
        ⟨d.nextId, Uuid.shift n file, bytes⟩ := ⟨h.nextId, rfl, rfl⟩
    rw [hreplay]
    exact (halike now).insertChunk (d := ⟨_, d.now, d.now⟩) hchunk hnew howner

theorem finishFile_alike {size : Int} (hsize : 0 ≤ size) (ids : List Uuid) :
    CallsAlike (Writing n tx tx' file) (.finishFile tx file size ids)
      (.finishFile tx' (Uuid.shift n file) size (ids.map (Uuid.shift n)))
      (Concur (fun _ _ => Drafted n tx tx') (Drafting n tx tx')) := by
  intro τ s d h hids
  obtain ⟨rows, hopened, halike⟩ := h.copy
  have hserve := Memory.Store.serve_finishFile_quiet h.sees size ids
  rw [hserve] at hids ⊢
  have hfile : Uuid.shift n file ∈ rows.files.map (·.id) :=
    ((halike s.now).mem_fileIds file).mpr (h.sees.hasFile s.now)
  rw [Sql.Store.serve_finishFile hopened hsize hfile]
  -- the stamp of the finish is paired with that of the commit to come
  have hτ := Stamps.le_note h.stamps
  refine ⟨τ, le_refl τ, .ok ⟨?_, _, τ.note h.stamps, rfl, hτ, Stamps.before_note h.stamps, ?_⟩⟩
  · exact h.toPaired.served hserve hids h.tables h.issued (h.stamps.mono (Nat.le_refl _) (Nat.le_succ _))
  · show ((s.push tx _).replay tx s.now).Alike _ _ _
    rw [Memory.Store.replay_push h.isOpen]
    exact ((halike s.now).mono hτ).finishFile (Stamps.match_note h.stamps) file size ids

theorem deleteChunks_alike :
    CallsAlike (Drafting n tx tx') (.deleteChunks tx file) (.deleteChunks tx' (Uuid.shift n file))
      (Concur (fun rows rows' τ s d => rows' = rows ∧ Drafting n tx tx' τ s d) (Drafting n tx tx')) := by
  intro τ s d h hids
  obtain ⟨rows, hopened, halike⟩ := h.copy
  rw [Sql.Store.serve_deleteChunks hopened]
  have hdrafting := h.pushed (q := .deleteChunks tx file) rfl hids fun now => (halike now).deleteChunks file
  refine ⟨τ, le_refl τ, .ok ⟨?_, hdrafting⟩⟩
  rw [(halike s.now).countP_chunks]
  exact ((s.transaction tx).chunksVisible_eq_length (h.unmixed.fresh tx) s.now file).symm

theorem deleteFile_alike :
    CallsAlike (Drafting n tx tx') (.deleteFile tx file) (.deleteFile tx' (Uuid.shift n file))
      (Concur (fun rows rows' τ s d => rows' = rows ∧ Drafting n tx tx' τ s d) (Drafting n tx tx')) := by
  intro τ s d h hids
  obtain ⟨rows, hopened, halike⟩ := h.copy
  rw [Sql.Store.serve_deleteFile hopened]
  have hdrafting := h.pushed (q := .deleteFile tx file) rfl hids fun now => (halike now).deleteFile file
  refine ⟨τ, le_refl τ, .ok ⟨?_, hdrafting⟩⟩
  rw [(halike s.now).countP_files]
  show _ = if (s.transaction tx).fileVisible s.tables file then 1 else 0
  rw [(s.transaction tx).fileVisible_eq_hasFile s.tables s.now]
  rfl

/-! ## Point calls -/

theorem findFile_alike (id : Uuid) :
    CallsAlike (Idle n) (.findFile id) (.findFile (Uuid.shift n id))
      (Concur (fun f f' τ s d => Option.Rel (FileRecord.Alike (Uuid.shift n) τ) f f' ∧ Idle n τ s d)
        (Idle n)) := by
  intro τ s d h _
  rw [Sql.Store.serve_findFile h.closed]
  exact ⟨τ, le_refl τ, .ok ⟨h.tables.file? id, h⟩⟩

theorem findChunk_alike (id : Uuid) :
    CallsAlike (Idle n) (.findChunk id) (.findChunk (Uuid.shift n id))
      (Concur (fun bytes bytes' τ s d => bytes' = bytes ∧ Idle n τ s d) (Idle n)) := by
  intro τ s d h hids
  have hserve : s.serve (.findChunk id) =
      (.ok ((s.tables.chunk? id).map (·.bytes)), { s with fetches := s.fetches + 1 }) := by
    rw [Memory.Store.serve_findChunk, h.faults]
    rfl
  rw [hserve] at hids ⊢
  rw [Sql.Store.serve_findChunk h.closed]
  have hpaired := h.toPaired.served hserve hids h.tables h.issued h.stamps
  exact ⟨τ, le_refl τ, .ok ⟨h.tables.bytes? id, hpaired, h.closed⟩⟩

theorem updateMetadata_alike (id : Uuid) (data : Option Bytes) :
    CallsAlike (Idle n) (.updateMetadata id data) (.updateMetadata (Uuid.shift n id) data)
      (Concur (fun rows rows' τ s d => rows' = rows ∧ Idle n τ s d) (Idle n)) := by
  intro τ s d h hids
  rw [Sql.Store.serve_updateMetadata h.closed, h.tables.countP_files]
  rcases Memory.Store.serve_updateMetadata_cases s id data with ⟨hfile, hserve⟩ | ⟨hfile, hserve⟩
  · have hτ := Stamps.le_note h.stamps
    have halike := (h.tables.mono hτ).setMetadata (Stamps.match_note h.stamps) id data
    rw [hserve] at hids ⊢
    rw [hfile]
    exact ⟨τ.note h.stamps, hτ, .ok ⟨rfl, h.toPaired.served hserve hids halike h.issued
      (Stamps.before_note h.stamps), h.closed⟩⟩
  · -- nothing is changed in memory, and no row is touched in the database
    have halike := h.tables.updateFile_of_no_file hfile fun f => { f with metadata := data, updatedAt := d.now }
    rw [hserve] at hids ⊢
    rw [hfile]
    exact ⟨τ, le_refl τ, .ok ⟨rfl, h.toPaired.served hserve hids halike h.issued
      (h.stamps.mono (Nat.le_refl _) (Nat.le_succ _)), h.closed⟩⟩

end Calls
end ChunkVault
