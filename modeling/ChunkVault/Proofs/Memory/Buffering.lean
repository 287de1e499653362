/-
# ChunkVault.Proofs.Memory.Buffering -- a buffered transaction is its writes, executed

A transaction answers from its buffer without executing it: two folds over the waiting writes say whether a
file is there and how many chunks it owns. Here both are what one would find in the tables after the writes
(`fileVisible_eq_hasFile`, `chunksVisible_eq_length`), whatever the tables hold by now. The chunks that wait
need ids of their own for that: inserting a chunk twice counts twice and leaves one row.

From this every call within a transaction is answered as if all calls before it had been executed on the
committed tables of this moment (`Tables.Executes`), and the commit makes the tables what they were taken for.
-/
import ChunkVault.Proofs.Memory.Ids

namespace ChunkVault.Memory

/-! ## One write -/

section Write

variable (now : Timestamp) (t : Tables) (w : Write)

theorem alterFile_hasFile (other id : Uuid) {change : FileRecord → FileRecord}
    (hchange : ∀ f, (change f).id = f.id) : (t.alterFile other change).hasFile id = t.hasFile id := by
  have hids : ∀ u : Tables, u.hasFile id = (u.files.map (·.id)).any (· = id) := fun u => by
    rw [List.any_map]
    rfl
  rw [hids, hids, t.alterFile_ids other hchange]

theorem hasFile_insertFile (f : FileRecord) (id : Uuid) :
    (t.insertFile f).hasFile id = if f.id = id then true else t.hasFile id := by
  show (t.files.filter (·.id ≠ f.id) ++ [f]).any _ = _
  rw [List.any_append, List.any_filter]
  by_cases hid : f.id = id
  · simp [hid]
  · -- what the new row replaces has another id
    have hrest : (fun g : FileRecord => decide (g.id ≠ f.id) && decide (g.id = id)) = fun g => decide (g.id = id) := by
      funext g
      by_cases hg : g.id = id
      · simp [hg, Ne.symm hid]
      · simp [hg]
    rw [hrest, if_neg hid, List.any_cons, List.any_nil, decide_eq_false hid, Bool.or_false, Bool.or_false]
    rfl

theorem hasFile_deleteFile (gone id : Uuid) :
    (t.deleteFile gone).hasFile id = if gone = id then false else t.hasFile id := by
  show (t.files.filter (·.id ≠ gone)).any _ = _
  rw [List.any_filter]
  by_cases hid : gone = id
  · subst hid
    rw [if_pos rfl, List.any_eq_false]
    intro f _
    simp
  · have hrest : (fun f : FileRecord => decide (f.id ≠ gone) && decide (f.id = id)) = fun f => decide (f.id = id) := by
      funext f
      by_cases hf : f.id = id
      · simp [hf, Ne.symm hid]
      · simp [hf]
    rw [hrest, if_neg hid]
    rfl

/-- **Seeing a write is executing it**, as far as a file is concerned. -/
theorem hasFile_apply (id : Uuid) : (w.apply now t).hasFile id = w.keepsFile id (t.hasFile id) := by
  cases w with
  | insertFile f => exact hasFile_insertFile t f id
  | insertChunk c => rfl
  | finishFile file size ids => exact alterFile_hasFile t file id fun _ => rfl
  | deleteChunks file => rfl
  | deleteFile gone => exact hasFile_deleteFile t gone id

/-- The id of the chunk that a write inserts. -/
def Write.newChunk? : Write → Option Uuid
  | insertChunk c => some c.id
  | insertFile _ | finishFile .. | deleteChunks _ | deleteFile _ => none

theorem length_chunksOf_insertChunk {c : ChunkRecord} (hnew : ∀ d ∈ t.chunks, d.id ≠ c.id) (file : Uuid) :
    ((t.insertChunk c).chunksOf file).length =
      if c.fileId = file then (t.chunksOf file).length + 1 else (t.chunksOf file).length := by
  have hkept : t.chunks.filter (·.id ≠ c.id) = t.chunks :=
    List.filter_eq_self.mpr fun d hd => decide_eq_true (hnew d hd)
  show ((t.chunks.filter (·.id ≠ c.id) ++ [c]).filter (·.fileId = file)).length = _
  rw [hkept, List.filter_append, List.length_append]
  by_cases howner : c.fileId = file
  · rw [if_pos howner, List.filter_cons_of_pos (by simpa using howner)]
    rfl
  · rw [if_neg howner, List.filter_cons_of_neg (by simpa using howner)]
    rfl

theorem length_chunksOf_deleteChunks (gone file : Uuid) :
    ((t.deleteChunks gone).chunksOf file).length = if gone = file then 0 else (t.chunksOf file).length := by
  show ((t.chunks.filter (·.fileId ≠ gone)).filter (·.fileId = file)).length = _
  rw [List.filter_filter]
  by_cases hfile : gone = file
  · rw [if_pos hfile, List.length_eq_zero_iff, List.filter_eq_nil_iff]
    intro c _
    simp [hfile]
  · rw [if_neg hfile]
    refine congrArg List.length (List.filter_congr fun c _ => ?_)
    by_cases hc : c.fileId = file
    · simp [hc, Ne.symm hfile]
    · simp [hc]

/-- **Counting a write is executing it**, as long as no chunk has the id of the one that it inserts. -/
theorem length_chunksOf_apply (hnew : ∀ d ∈ t.chunks, w.newChunk? ≠ some d.id) (file : Uuid) :
    ((w.apply now t).chunksOf file).length = w.countChunks file (t.chunksOf file).length := by
  cases w with
  | insertFile f => rfl
  | insertChunk c =>
    exact length_chunksOf_insertChunk t (fun d hd heq => hnew d hd (congrArg some heq.symm)) file
  | finishFile id size ids => rfl
  | deleteChunks gone => exact length_chunksOf_deleteChunks t gone file
  | deleteFile gone => exact length_chunksOf_deleteChunks t gone file

/-- A chunk that is there after a write was there before, or has the id of the one that it inserts. -/
theorem chunk_of_apply {d : ChunkRecord} (hd : d ∈ (w.apply now t).chunks) :
    d ∈ t.chunks ∨ w.newChunk? = some d.id := by
  cases w with
  | insertFile f => exact .inl hd
  | insertChunk c =>
    rcases List.mem_append.mp hd with hd | hd
    · exact .inl (List.mem_of_mem_filter hd)
    · rw [List.mem_singleton.mp hd]
      exact .inr rfl
  | finishFile id size ids => exact .inl hd
  | deleteChunks gone => exact .inl (List.mem_of_mem_filter hd)
  | deleteFile gone => exact .inl (List.mem_of_mem_filter hd)

/-- There is one file to an id, and a write does not change that. -/
theorem nodup_files_apply (h : (t.files.map (·.id)).Nodup) : ((w.apply now t).files.map (·.id)).Nodup := by
  cases w with
  | insertFile f =>
    show ((t.files.filter (·.id ≠ f.id) ++ [f]).map (·.id)).Nodup
    rw [List.map_append, List.nodup_append]
    refine ⟨h.sublist (List.filter_sublist.map _), List.nodup_singleton _, ?_⟩
    rintro id hid _ hf rfl
    obtain ⟨g, hg, hgid⟩ := List.mem_map.mp hid
    rw [List.mem_singleton.mp hf] at hgid
    exact of_decide_eq_true (List.mem_filter.mp hg).2 hgid
  | insertChunk c => exact h
  | finishFile id size ids =>
    have hids : (Write.apply now t (.finishFile id size ids)).files.map (·.id) = t.files.map (·.id) :=
      t.alterFile_ids id fun _ => rfl
    rw [hids]
    exact h
  | deleteChunks gone => exact h
  | deleteFile gone => exact h.sublist (List.filter_sublist.map _)

end Write

/-! ## All writes of a transaction -/

namespace Transaction

variable {ops : Transaction} {t : Tables}

/-- The chunks that wait have ids of their own: different from each other, and from those of all chunks that
are stored. -/
structure Fresh (ops : Transaction) (t : Tables) : Prop where
  nodup : (ops.writes.filterMap Write.newChunk?).Nodup
  unused : ∀ d ∈ t.chunks, d.id ∉ ops.writes.filterMap Write.newChunk?

/-- **A transaction sees the files of the tables that its writes lead to.** -/
theorem fileVisible_eq_hasFile (ops : Transaction) (t : Tables) (now : Timestamp) (id : Uuid) :
    ops.fileVisible t id = (ops.apply now t).hasFile id := by
  obtain ⟨writes, inserts⟩ := ops
  show writes.foldl (Write.keepsFile id) (t.hasFile id) = (writes.foldl (Write.apply now) t).hasFile id
  induction writes generalizing t with
  | nil => rfl
  | cons w writes ih => rw [List.foldl_cons, List.foldl_cons, ← hasFile_apply now t w id, ih]

/-- **A transaction counts the chunks of the tables that its writes lead to.** -/
theorem chunksVisible_eq_length (h : ops.Fresh t) (now : Timestamp) (file : Uuid) :
    ops.chunksVisible t file = ((ops.apply now t).chunksOf file).length := by
  obtain ⟨writes, inserts⟩ := ops
  obtain ⟨hnodup, hunused⟩ := h
  show writes.foldl (Write.countChunks file) (t.chunksOf file).length =
    ((writes.foldl (Write.apply now) t).chunksOf file).length
  -- along the writes; the ids of those to come are unused in the tables so far
  induction writes generalizing t with
  | nil => rfl
  | cons w writes ih =>
    rw [List.filterMap_cons] at hnodup hunused
    have hnew : ∀ d ∈ t.chunks, w.newChunk? ≠ some d.id := by
      intro d hd heq
      apply hunused d hd
      rw [heq]
      exact List.mem_cons_self
    rw [List.foldl_cons, List.foldl_cons, ← length_chunksOf_apply now t w hnew file]
    have hrest : (writes.filterMap Write.newChunk?).Nodup := by
      cases hw : w.newChunk? with
      | none => rwa [hw] at hnodup
      | some id =>
        rw [hw] at hnodup
        exact (List.nodup_cons.mp hnodup).2
    refine ih hrest fun d hd hmem => ?_
    rcases chunk_of_apply now t w hd with hd | hd
    · apply hunused d hd
      cases hw : w.newChunk? with
      | none => exact hmem
      | some id => exact List.mem_cons_of_mem id hmem
    · rw [hd] at hnodup
      exact (List.nodup_cons.mp hnodup).1 hmem

theorem nodup_files_replay (ops : Transaction) (now : Timestamp) (h : (t.files.map (·.id)).Nodup) :
    ((ops.apply now t).files.map (·.id)).Nodup := by
  obtain ⟨writes, inserts⟩ := ops
  show ((writes.foldl (Write.apply now) t).files.map (·.id)).Nodup
  induction writes generalizing t with
  | nil => exact h
  | cons w writes ih => exact ih (nodup_files_apply now t w h)

theorem apply_push (ops : Transaction) (now : Timestamp) (t : Tables) (w : Write) :
    (ops.push w).apply now t = w.apply now (ops.apply now t) :=
  List.foldl_append

end Transaction

/-! ## Calls that are executed at once -/

/-- What a call within a transaction answers and makes of the tables when it is executed on them at once. -/
inductive Tables.Executes (now : Timestamp) (t : Tables) : CallRecord → Tables → Prop
  | insertFile (tx : TxId) (id : Uuid) (made : Timestamp) :
      Executes now t (.ok (.insertFile tx) id) (t.insertFile ⟨id, 0, [], none, made, made⟩)
  | insertChunk {tx : TxId} {file : Uuid} {bytes : Bytes} (h : t.hasFile file = true) (id : Uuid) :
      Executes now t (.ok (.insertChunk tx file bytes) id) (t.insertChunk ⟨id, file, bytes⟩)
  | ownerless {tx : TxId} {file : Uuid} {bytes : Bytes} (h : t.hasFile file = false) (e : StorageError) :
      Executes now t ⟨.insertChunk tx file bytes, some (.error e)⟩ t
  | finishFile {tx : TxId} {file : Uuid} {size : Int} {ids : List Uuid} (h : t.hasFile file = true) :
      Executes now t (.ok (.finishFile tx file size ids) ()) (t.finishFile now file size ids)
  | notFound {tx : TxId} {file : Uuid} {size : Int} {ids : List Uuid} (h : t.hasFile file = false) :
      Executes now t ⟨.finishFile tx file size ids, some (.error .notFound)⟩ t
  | deleteChunks {tx : TxId} {file : Uuid} {rows : Nat}
      (h : rows + (t.deleteChunks file).chunks.length = t.chunks.length) :
      Executes now t (.ok (.deleteChunks tx file) rows) (t.deleteChunks file)
  | deleteFile {tx : TxId} {file : Uuid} {rows : Nat}
      (h : rows + (t.deleteFile file).files.length = t.files.length) :
      Executes now t (.ok (.deleteFile tx file) rows) (t.deleteFile file)

theorem length_chunksOf_add (t : Tables) (file : Uuid) :
    (t.chunksOf file).length + (t.deleteChunks file).chunks.length = t.chunks.length := by
  have hrest : (t.deleteChunks file).chunks = t.chunks.filter fun c => !decide (c.fileId = file) :=
    List.filter_congr fun c _ => by simp
  rw [hrest]
  exact (List.length_eq_length_filter_add _).symm

theorem length_files_add {t : Tables} (h : (t.files.map (·.id)).Nodup) (file : Uuid) :
    (if t.hasFile file then 1 else 0) + (t.deleteFile file).files.length = t.files.length := by
  have hrest : (t.deleteFile file).files = t.files.filter fun f => !decide (f.id = file) :=
    List.filter_congr fun f _ => by simp
  -- there is at most one row of that id
  have hcount : (t.files.filter (·.id = file)).length = if t.hasFile file then 1 else 0 := by
    have hids : (t.files.filter (·.id = file)).length = (t.files.map (·.id)).count file := by
      rw [← List.countP_eq_length_filter, List.count, List.countP_map]
      exact List.countP_congr fun f _ => by simp
    rw [hids]
    cases hfile : t.hasFile file with
    | true =>
      obtain ⟨f, hf, hid⟩ := List.any_eq_true.mp hfile
      exact List.count_eq_one_of_mem h (List.mem_map.mpr ⟨f, hf, of_decide_eq_true hid⟩)
    | false =>
      refine List.count_eq_zero_of_not_mem fun hmem => ?_
      obtain ⟨f, hf, hid⟩ := List.mem_map.mp hmem
      exact List.any_eq_false.mp hfile f hf (decide_eq_true hid)
  rw [hrest, ← hcount]
  exact (List.length_eq_length_filter_add _).symm

namespace Store

variable {lost : Request → Prop} {s s' : Store} {tx : TxId} {ops : Transaction}

/-- A transaction with these operations in its buffer is answered, and ends, as if they had been executed on
the tables as they are now. -/
structure Buffers (s : Store) (tx : TxId) (ops : Transaction) : Prop where
  transaction : s.transaction tx = ops
  fileVisible : ∀ now id, ops.fileVisible s.tables id = (ops.apply now s.tables).hasFile id
  chunksVisible : ∀ now file,
    ops.chunksVisible s.tables file = ((ops.apply now s.tables).chunksOf file).length
  /-- The buffer after a call is the one before, executed, and then the call. -/
  executes : ∀ now q, q.writesTo? = some tx →
    (ops.apply now s.tables).Executes now ⟨q, some (s.serve q).1⟩
      (((s.serve q).2.transaction tx).apply now (s.serve q).2.tables)
  commit : (s.serve (.commit tx)).1 = .ok () ∧
    (s.serve (.commit tx)).2.tables = ops.apply s.now s.tables
  rollback : (s.serve (.rollback tx)).1 = .ok () ∧ (s.serve (.rollback tx)).2.tables = s.tables
  dropped : (s.discard tx).tables = s.tables
  failing : ∀ faults : Faults, faults.commits = true →
    (∃ e, ({ s with faults := faults }.serve (.commit tx)).1 = .error e) ∧
      ({ s with faults := faults }.serve (.commit tx)).2.tables = s.tables

/-- A write that is pushed is executed after those that wait. -/
theorem apply_pushed (hopen : s.isOpen tx = true) (now : Timestamp) (w : Write) :
    ((s.push tx w).transaction tx).apply now s.tables =
      w.apply now ((s.transaction tx).apply now s.tables) := by
  rw [transaction_push, if_pos ⟨rfl, hopen⟩, Transaction.apply_push]

theorem apply_tried (s : Store) (tx : TxId) (now : Timestamp) (t : Tables) :
    ((s.tried tx).transaction tx).apply now t = (s.transaction tx).apply now t :=
  congrArg (List.foldl (Write.apply now) t) (waiting_tried s tx)

theorem apply_withChunk {file : Uuid} {bytes : Bytes} (hopen : s.isOpen tx = true) (now : Timestamp) :
    ((s.withChunk tx file bytes).transaction tx).apply now s.tables =
      ((s.transaction tx).apply now s.tables).insertChunk ⟨Uuid.issue s.issued, file, bytes⟩ := by
  have hopen' : (s.tried tx).isOpen tx = true := (isOpen_keep s tx _ tx).trans hopen
  have hpushed := apply_pushed hopen' now (.insertChunk ⟨Uuid.issue s.issued, file, bytes⟩)
  exact hpushed.trans (congrArg (Tables.insertChunk · _) (apply_tried s tx now s.tables))

/-- **A call within a transaction is answered as if the calls before it had been executed.** -/
theorem executes_serve {q : Request} (hq : q.writesTo? = some tx) (hopen : s.isOpen tx = true)
    (hfaults : s.faults = .none) (hkeys : (s.tables.files.map (·.id)).Nodup)
    (hfresh : (s.transaction tx).Fresh s.tables) (now : Timestamp) :
    ((s.transaction tx).apply now s.tables).Executes now ⟨q, some (s.serve q).1⟩
      (((s.serve q).2.transaction tx).apply now (s.serve q).2.tables) := by
  have htables : (s.serve q).2.tables = s.tables := (Frame.serve q s).tables (publishes_of_writesTo? hq)
  rw [htables]
  have hsees : ∀ id, (s.transaction tx).fileVisible s.tables id =
      ((s.transaction tx).apply now s.tables).hasFile id :=
    fun id => (s.transaction tx).fileVisible_eq_hasFile s.tables now id
  cases q with
  | insertFile n =>
    obtain rfl := Option.some.inj hq
    have hpushed := apply_pushed hopen now
      (.insertFile ⟨Uuid.issue s.issued, 0, [], none, s.now, s.now⟩)
    exact hpushed ▸ .insertFile n (Uuid.issue s.issued) s.now
  | insertChunk n file bytes =>
    obtain rfl := Option.some.inj hq
    rcases serve_insertChunk_cases s n file bytes with ⟨hwhy, e, hserve⟩ | ⟨hvisible, hserve⟩
    · have hgone : (s.transaction n).fileVisible s.tables file = false := by
        rcases hwhy with hfault | hgone
        · rw [hfaults] at hfault
          cases hfault
        · exact hgone
      rw [hserve, apply_tried]
      exact .ownerless ((hsees file).symm.trans hgone) e
    · rw [hserve, apply_withChunk hopen]
      exact .insertChunk ((hsees file).symm.trans hvisible) _
  | finishFile n file size ids =>
    obtain rfl := Option.some.inj hq
    rcases serve_finishFile_cases s n file size ids with ⟨hvisible, hserve⟩ | ⟨hvisible, hserve⟩
    · rw [hserve, apply_pushed hopen]
      exact .finishFile ((hsees file).symm.trans hvisible)
    · rw [hserve]
      exact .notFound ((hsees file).symm.trans hvisible)
  | deleteChunks n file =>
    obtain rfl := Option.some.inj hq
    have hpushed := apply_pushed hopen now (.deleteChunks file)
    have hcount := (s.transaction n).chunksVisible_eq_length hfresh now file
    exact hpushed ▸ .deleteChunks (hcount ▸ length_chunksOf_add _ file)
  | deleteFile n file =>
    obtain rfl := Option.some.inj hq
    have hpushed := apply_pushed hopen now (.deleteFile file)
    have hcount := length_files_add ((s.transaction n).nodup_files_replay now hkeys) file
    rw [← hsees] at hcount
    exact hpushed ▸ .deleteFile hcount
  | _ => cases hq

/-- A store keeps ids in one place each, so what waits in its transactions is fresh. -/
theorem Unmixed.fresh (h : s.Unmixed) (tx : TxId) : (s.transaction tx).Fresh s.tables := by
  have hids : ∀ ws : List Write, (ws.filterMap Write.newChunk?).Sublist (newIds ws) := by
    intro ws
    induction ws with
    | nil => exact .slnil
    | cons w ws ih =>
      rw [newIds, List.filterMap_cons, List.filterMap_cons]
      cases w with
      | insertChunk c => exact ih.cons_cons c.id
      | insertFile f => exact ih.cons f.id
      | _ => exact ih
  refine ⟨(h.nodup tx).sublist (hids _), fun d hd hmem => ?_⟩
  exact h.unused tx d.id ((hids _).subset hmem) (List.mem_append_right _ (List.mem_map_of_mem hd))

/-- There is one file to an id, and a call does not change that. -/
theorem Made.nodup_files {c : CallRecord} (h : Made lost c s s') (hs : (s.tables.files.map (·.id)).Nodup) :
    (s'.tables.files.map (·.id)).Nodup := by
  rcases h.tables_cases with hsame | ⟨n, now, -, -, happly⟩ | ⟨id, data, now, -, hdata⟩
  · rw [hsame]
    exact hs
  · rw [happly]
    exact (s.transaction n).nodup_files_replay now hs
  · have hids : (s.tables.setMetadata now id data).files.map (·.id) = s.tables.files.map (·.id) :=
      s.tables.alterFile_ids id fun _ => rfl
    rw [hdata, hids]
    exact hs

/-- **A buffered transaction is its writes, executed** on whatever the others have committed by then. -/
theorem Moves.buffers {l : List CallRecord} (h : Moves lost l s s') (hopen : s.isOpen tx = true)
    (hname : tx < s.nextTx) (hkeys : (s.tables.files.map (·.id)).Nodup)
    (hothers : ∀ c ∈ l, c.request.within? ≠ some tx) (hfaults : s'.faults = .none)
    (hfresh : (s.transaction tx).Fresh s'.tables) : s'.Buffers tx (s.transaction tx) := by
  -- what others do leaves the transaction as it was
  obtain ⟨-, hkeys', hopen', hsame⟩ := h.invariant
    (I := fun s' => tx < s'.nextTx ∧ (s'.tables.files.map (·.id)).Nodup ∧ s'.isOpen tx = true ∧
      s'.transaction tx = s.transaction tx)
    (fun s₁ s₂ hlook ⟨hn, hk, ho, ht⟩ => by
      obtain ⟨n, rfl⟩ := hlook.exists_fetches
      exact ⟨hn, hk, ho, ht⟩)
    (fun c hc s₁ s₂ hmade ⟨hn, hk, ho, ht⟩ =>
      ⟨Nat.lt_of_lt_of_le hn hmade.frame.nextTx, hmade.nodup_files hk,
        (hmade.frame.isOpen tx hn (hothers c hc)).trans ho,
        (hmade.frame.transaction tx hn (hothers c hc)).trans ht⟩)
    ⟨hname, hkeys, hopen, rfl⟩
  rw [← hsame] at hfresh ⊢
  have hcommit : s'.serve (.commit tx) = (.ok (), s'.committed tx) := by
    rcases serve_commit_cases s' tx with ⟨hfault, -⟩ | ⟨-, hserve⟩
    · rw [hfaults] at hfault
      cases hfault
    · exact hserve
  refine ⟨rfl, ?_, ?_, ?_, ?_, ⟨rfl, rfl⟩, rfl, ?_⟩
  · exact fun now id => (s'.transaction tx).fileVisible_eq_hasFile s'.tables now id
  · exact fun now file => (s'.transaction tx).chunksVisible_eq_length hfresh now file
  · exact fun now q hq => executes_serve hq hopen' hfaults hkeys' hfresh now
  · rw [hcommit]
    exact ⟨rfl, rfl⟩
  · intro faults hfails
    rcases serve_commit_cases { s' with faults := faults } tx with ⟨-, e, hserve⟩ | ⟨hworks, -⟩
    · rw [hserve]
      exact ⟨⟨e, rfl⟩, rfl⟩
    · exact absurd hworks (ne_false_of_eq_true hfails)

/-- A transaction that deletes a file and uploads another, while a third file is committed by someone else. -/
theorem Moves.buffers_delete_and_upload :
    let calls : List Request := [.begin, .insertFile 0, .insertChunk 0 (.issue 0) [1], .commit 0, .begin,
      .deleteChunks 1 (.issue 0), .insertFile 1, .insertChunk 1 (.issue 2) [2], .begin, .insertFile 2]
    let s := calls.foldl (fun s q => (s.serve q).2) empty
    let s' := (s.serve (.commit 2)).2
    s'.tables.files.map (·.id) = [.issue 0, .issue 4] ∧ (s.waiting 1).length = 3 ∧
      s'.Buffers 1 (s.transaction 1) := by
  intro calls s s'
  have hmoves : Moves (fun _ => False) [.ok (.commit 2) ()] s s' := Made.moves (.inl ⟨rfl, rfl⟩)
  have hothers : ∀ c ∈ [CallRecord.ok (.commit 2) ()], c.request.within? ≠ some 1 := by
    intro c hc
    rw [List.mem_singleton.mp hc]
    decide
  exact ⟨by decide, by decide, hmoves.buffers (by decide) (by decide) (by decide) hothers rfl
    ⟨by decide, by decide⟩⟩

end Store
end ChunkVault.Memory
