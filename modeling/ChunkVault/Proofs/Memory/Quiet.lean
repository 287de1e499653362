/-
# ChunkVault.Proofs.Memory.Quiet -- a bench where nothing is disturbed

A bench is quiet when it has no hooks and its store no faults. Every call is then served as it is made, and
the token of the operation never fires. `run_save_quiet` shows that an upload meets no obstacle there: the
store refuses a chunk only of a file that the transaction does not see, and the upload has inserted its
file first.
-/
import ChunkVault.Proofs.Memory.Bench

namespace ChunkVault

open Program Memory

/-! ## Stores without faults -/

namespace Memory.Store

theorem serve_faults {s : Store} (h : s.faults = .none) (q : Request) : (s.serve q).2.faults = .none := by
  cases q with
  | insertChunk tx file bytes =>
    rcases serve_insertChunk_cases s tx file bytes with ⟨-, e, hserve⟩ | ⟨-, hserve⟩ <;> rw [hserve] <;> exact h
  | finishFile tx file size ids =>
    rcases serve_finishFile_cases s tx file size ids with ⟨-, hserve⟩ | ⟨-, hserve⟩ <;> rw [hserve] <;>
      exact h
  | commit tx =>
    rcases serve_commit_cases s tx with ⟨-, e, hserve⟩ | ⟨-, hserve⟩
    · rw [hserve]
      exact h
    · rw [hserve]
      show { s.faults with fireInCommit := none } = Faults.none
      rw [h]
      rfl
  | findChunk id =>
    rw [serve_findChunk]
    exact h
  | updateMetadata id data =>
    rcases serve_updateMetadata_cases s id data with ⟨-, hserve⟩ | ⟨-, hserve⟩ <;> rw [hserve] <;> exact h
  | _ => exact h

/-- The transaction is open and sees the file. -/
structure Sees (s : Store) (tx : TxId) (file : Uuid) : Prop where
  isOpen : s.isOpen tx = true
  visible : (s.transaction tx).fileVisible s.tables file = true

theorem fileVisible_push (t : Transaction) (tables : Tables) (id : Uuid) (w : Write) :
    (t.push w).fileVisible tables id = w.keepsFile id (t.fileVisible tables id) := by
  unfold Transaction.fileVisible Transaction.push
  rw [List.foldl_append]
  rfl

/-- A write that leaves the file where it is leaves it in sight. -/
theorem Sees.push {s : Store} {tx : TxId} {file : Uuid} (h : s.Sees tx file) {w : Write}
    (hw : w.keepsFile file true = true) : (s.push tx w).Sees tx file where
  isOpen := by rw [isOpen_push, h.isOpen]
  visible := by
    rw [transaction_push, if_pos ⟨rfl, h.isOpen⟩, fileVisible_push]
    show w.keepsFile file ((s.transaction tx).fileVisible s.tables file) = true
    rw [h.visible, hw]

theorem insertFile_sees {s : Store} {tx : TxId} (h : s.isOpen tx = true) :
    (s.serve (.insertFile tx)).1 = .ok (Uuid.issue s.issued) ∧
      (s.serve (.insertFile tx)).2.Sees tx (Uuid.issue s.issued) := by
  refine ⟨rfl, ?_, ?_⟩
  · exact (isOpen_push s tx _ tx).trans h
  · show ((s.push tx _).transaction tx).fileVisible s.tables _ = true
    rw [transaction_push, if_pos ⟨rfl, h⟩, fileVisible_push]
    exact if_pos rfl

/-- There is no reason to refuse a chunk of a file in sight. -/
theorem serve_insertChunk_quiet {s : Store} {tx : TxId} {file : Uuid} (hf : s.faults = .none)
    (h : s.Sees tx file) (bytes : Bytes) :
    s.serve (.insertChunk tx file bytes) = (.ok (Uuid.issue s.issued), s.withChunk tx file bytes) := by
  rcases serve_insertChunk_cases s tx file bytes with ⟨hwhy, -⟩ | ⟨-, hserve⟩
  · rcases hwhy with hfault | hhidden
    · rw [hf] at hfault
      cases hfault
    · rw [h.visible] at hhidden
      cases hhidden
  · exact hserve

theorem insertChunk_sees {s : Store} {tx : TxId} {file : Uuid} (hf : s.faults = .none)
    (h : s.Sees tx file) (bytes : Bytes) :
    (s.serve (.insertChunk tx file bytes)).1 = .ok (Uuid.issue s.issued) ∧
      (s.serve (.insertChunk tx file bytes)).2.Sees tx file := by
  have htried : (s.tried tx).Sees tx file := by
    refine ⟨(isOpen_keep s tx _ tx).trans h.isOpen, ?_⟩
    rw [tried, transaction_keep, if_pos ⟨rfl, h.isOpen⟩]
    exact h.visible
  have hpushed := htried.push (show (Write.insertChunk ⟨Uuid.issue s.issued, file, bytes⟩).keepsFile file
    true = true from rfl)
  rw [serve_insertChunk_quiet hf h]
  exact ⟨rfl, hpushed.isOpen, hpushed.visible⟩

theorem serve_finishFile_quiet {s : Store} {tx : TxId} {file : Uuid} (h : s.Sees tx file) (size : Int)
    (ids : List Uuid) :
    s.serve (.finishFile tx file size ids) = (.ok (), s.push tx (.finishFile file size ids)) := by
  rcases serve_finishFile_cases s tx file size ids with ⟨-, hserve⟩ | ⟨hhidden, -⟩
  · exact hserve
  · rw [h.visible] at hhidden
    cases hhidden

theorem finishFile_sees {s : Store} {tx : TxId} {file : Uuid} (h : s.Sees tx file) (size : Int)
    (ids : List Uuid) : (s.serve (.finishFile tx file size ids)).1 = .ok () := by
  rw [serve_finishFile_quiet h]

theorem serve_commit_quiet {s : Store} (hf : s.faults = .none) (tx : TxId) :
    s.serve (.commit tx) = (.ok (), s.committed tx) := by
  rcases serve_commit_cases s tx with ⟨hfault, -⟩ | ⟨-, hserve⟩
  · rw [hf] at hfault
    cases hfault
  · exact hserve

theorem commit_quiet {s : Store} (hf : s.faults = .none) (tx : TxId) :
    (s.serve (.commit tx)).1 = .ok () := by
  rw [serve_commit_quiet hf]

theorem findChunk_quiet {s : Store} (hf : s.faults = .none) (id : Uuid) :
    (s.serve (.findChunk id)).1 = .ok ((s.tables.chunk? id).map (·.bytes)) := by
  rw [serve_findChunk, hf]
  rfl

end Memory.Store

/-! ## Quiet benches -/

namespace Bench

variable {α β : Type}

/-- No hooks, and a store without faults. -/
structure Quiet (b : Bench) (s : Store) : Prop where
  holds : b.Holds s
  hooks : b.hooks = []
  faults : s.faults = .none

theorem run_bind {b b₁ : Bench} {p : Program α} {a : α} (h : b.run p = (a, b₁)) (f : α → Program β) :
    b.run (p.bind f) = b₁.run (f a) := by
  rw [Bench.run, Program.run_bind]
  rw [Bench.run] at h
  rw [h]
  rfl

theorem serve_quiet {b : Bench} {s : Store} (h : b.Quiet s) (q : Request) :
    ∃ b', b.serve q none = ((s.serve q).1, b') ∧ b'.Quiet (s.serve q).2 := by
  refine ⟨(b.serve q none).2, Prod.ext ?_ rfl, ?_, h.hooks, Store.serve_faults h.faults q⟩
  · show (b.backend.serve q).1 = (s.serve q).1
    rw [h.holds]
    rfl
  · show (b.backend.serve q).2.1 = .memory (s.serve q).2
    rw [h.holds]
    rfl

/-- Counting the calls for hooks means nothing where there are none. -/
theorem Quiet.passHooks {b : Bench} {s : Store} (h : b.Quiet s) (kind : CallKind) :
    b.due kind = [] ∧ (b.passHooks kind).Quiet s := by
  refine ⟨by rw [due, h.hooks]; rfl, h.holds, ?_, h.faults⟩
  rw [Bench.passHooks, h.hooks]
  rfl

/-- **A quiet bench serves a call as it is made.** -/
theorem run_call_quiet {b : Bench} {s : Store} (h : b.Quiet s) (q : Request) :
    ∃ b', b.run (call q) = ((s.serve q).1, b') ∧ b'.Quiet (s.serve q).2 := by
  obtain ⟨hdue, hpass⟩ := h.passHooks q.kind
  obtain ⟨b', hserve, h'⟩ := serve_quiet hpass q
  refine ⟨b', ?_, h'⟩
  show b.perform q = _
  unfold perform
  rw [hdue]
  exact hserve

/-- A call that is under way on a quiet bench is served, whatever token could give it up. -/
theorem attempt_quiet {b : Bench} {s : Store} (h : b.Quiet s) (token : Token) (q : Request) :
    ∃ b', b.attempt token q = (.finished (s.serve q).1, b') ∧ b'.Quiet (s.serve q).2 := by
  obtain ⟨hdue, hpass⟩ := h.passHooks q.kind
  obtain ⟨b', hserve, h'⟩ := serve_quiet hpass q
  refine ⟨b', ?_, h'⟩
  unfold attempt
  rw [hdue]
  show ((Race.finished ((b.passHooks q.kind).serve q none).1, ((b.passHooks q.kind).serve q none).2) :
    Race q.Outcome × Bench) = _
  rw [hserve]

theorem run_race_quiet {b : Bench} {s : Store} (h : b.Quiet s) (q : Request) :
    ∃ b', b.run (race .own q) = ((s.serve q).1, b') ∧ b'.Quiet (s.serve q).2 := by
  obtain ⟨b', hattempt, h'⟩ := attempt_quiet h .own q
  refine ⟨b', ?_, h'⟩
  have hanswer : Bench.answer (.race .own q) b = (.finished (s.serve q).1, b') := hattempt
  rw [Bench.run, race, Program.run, hanswer]
  rfl

/-- Counting a run leaves a quiet bench quiet. -/
theorem run_counted_quiet {b b' : Bench} {s : Store} {p : Program (Except StorageError α)}
    {r : Except StorageError α} (method : Method) (hrun : b.run p = (r, b')) (h' : b'.Quiet s) :
    ∃ b'', b.run (counted method p) = (r, b'') ∧ b''.Quiet s :=
  ⟨_, run_bind hrun _, h'.holds, h'.hooks, h'.faults⟩

/-! ## Uploads on a quiet bench -/

theorem run_fire_quiet {b : Bench} {s : Store} (h : b.Quiet s) (names : List String) :
    ∃ b', b.run (Program.fire names) = ((), b') ∧ b'.Quiet s := by
  unfold Program.fire
  split
  · exact ⟨b, rfl, h⟩
  · exact ⟨b.fire names, rfl, h.holds, h.hooks, h.faults⟩

theorem run_waitOut_quiet {b : Bench} {s : Store} (h : b.Quiet s) (pauses : List (List String)) :
    ∃ b', b.run (waitOut .own pauses) = (.ok (), b') ∧ b'.Quiet s := by
  induction pauses generalizing b with
  | nil => exact ⟨b, rfl, h⟩
  | cons fires pauses ih =>
    obtain ⟨b₁, hfire, h₁⟩ := run_fire_quiet h fires
    obtain ⟨b₂, hwait, h₂⟩ := ih h₁
    exact ⟨b₂, (run_bind hfire _).trans hwait, h₂⟩

theorem run_pull_quiet {b : Bench} {s : Store} (h : b.Quiet s) {fill : Fill} {content : Bytes}
    (hfill : fill.result = .filled content) :
    ∃ b', b.run (pull .own fill) = (.ok content, b') ∧ b'.Quiet s := by
  obtain ⟨b₁, hwait, h₁⟩ := run_waitOut_quiet h fill.pauses
  obtain ⟨b₂, hfire, h₂⟩ := run_fire_quiet h₁ fill.fires
  refine ⟨b₂, ?_, h₂⟩
  refine (run_bind hwait _).trans ((run_bind hfire _).trans ?_)
  rw [hfill]
  rfl

/-- **No chunk of an upload is refused** on a quiet bench, once its file is in sight. -/
theorem run_writeChunks_quiet {b : Bench} {s : Store} {tx : TxId} {file : Uuid} {fills : List Fill}
    (hf : ∀ fill ∈ fills, ∃ content, fill.result = .filled content) (h : b.Quiet s)
    (hsees : s.Sees tx file) (written : Written) :
    ∃ w b' s', b.run (writeChunks .own tx file fills written) = (.ok w, b') ∧ b'.Quiet s' ∧
      s'.Sees tx file := by
  -- along the fills: the file stays in sight of the transaction, whatever is inserted for it
  induction fills generalizing b s written with
  | nil => exact ⟨written, b, s, rfl, h, hsees⟩
  | cons fill fills ih =>
    obtain ⟨content, hfill⟩ := hf fill List.mem_cons_self
    obtain ⟨b₁, hpull, h₁⟩ := run_pull_quiet h hfill
    unfold writeChunks
    simp only [bind_eq, run_bind hpull]
    by_cases hempty : content.isEmpty = true
    · rw [if_pos hempty]
      exact ⟨written, b₁, s, rfl, h₁, hsees⟩
    · rw [if_neg hempty]
      obtain ⟨hid, hsees₂⟩ := Store.insertChunk_sees h₁.faults hsees content
      obtain ⟨b₂, hrace, h₂⟩ := run_race_quiet h₁ (.insertChunk tx file content)
      rw [hid] at hrace
      simp only [run_bind hrace]
      by_cases hshort : content.length < chunkSize
      · rw [if_pos hshort]
        exact ⟨_, b₂, _, rfl, h₂, hsees₂⟩
      · rw [if_neg hshort]
        exact ih (fun fill hmem => hf fill (List.mem_cons_of_mem _ hmem)) h₂ hsees₂ _

/-- The fills of a source that ends as it should are all filled. -/
theorem filled_of_ended {source : Source} (hend : source.ending = .ended) :
    ∀ fill ∈ source.fills, ∃ content, fill.result = .filled content := by
  intro fill hfill
  have hresult : fill.result ∈ source.fills.map (·.result) := List.mem_map_of_mem hfill
  rw [source.fills_results, hend] at hresult
  exact SourceEnd.filled_of_mem hresult

theorem run_writeFile_quiet {b : Bench} {s : Store} {tx : TxId} {source : Source} (h : b.Quiet s)
    (hend : source.ending = .ended) (hopen : s.isOpen tx = true) :
    ∃ file b' s', b.run (writeFile .own tx source) = (.ok file, b') ∧ b'.Quiet s' := by
  obtain ⟨hfile, hsees⟩ := Store.insertFile_sees hopen
  obtain ⟨b₁, hinsert, h₁⟩ := run_race_quiet h (.insertFile tx)
  obtain ⟨w, b₂, s₂, hwrite, h₂, hsees₂⟩ :=
    run_writeChunks_quiet (filled_of_ended hend) h₁ hsees .empty
  obtain ⟨b₃, hfinish, h₃⟩ := run_race_quiet h₂ (.finishFile tx (Uuid.issue s.issued) w.size w.chunkIds)
  rw [hfile] at hinsert
  rw [Store.finishFile_sees hsees₂] at hfinish
  refine ⟨Uuid.issue s.issued, b₃, _, ?_, h₃⟩
  unfold writeFile
  simp only [bind_eq, run_bind hinsert, run_bind hwrite, run_bind hfinish]
  rfl

/-- **A save on a quiet bench succeeds**, if its source ends as it should. -/
theorem run_save_quiet {b : Bench} {s : Store} {source : Source} (h : b.Quiet s)
    (hend : source.ending = .ended) :
    ∃ file b' s', b.run (Storage.save .own source) = (.ok file, b') ∧ b'.Quiet s' := by
  -- the transaction is open from the begin on, and the commit is all that closes it
  have hopen : (s.serve .begin).2.isOpen s.nextTx = true := by
    rw [show (s.serve .begin).2 = s.begin.2 from rfl, Store.isOpen_begin]
    simp
  obtain ⟨b₁, hbegin, h₁⟩ := run_race_quiet h .begin
  obtain ⟨file, b₂, s₂, hwrite, h₂⟩ := run_writeFile_quiet h₁ hend hopen
  obtain ⟨b₃, hcommit, h₃⟩ := run_call_quiet h₂ (.commit s.nextTx)
  rw [show (s.serve .begin).1 = .ok s.nextTx from rfl] at hbegin
  rw [Store.commit_quiet h₂.faults] at hcommit
  have hfired : b₂.run (Program.fired .own) = (false, b₂) := rfl
  have hsettle : b₂.run (Storage.settle s.nextTx file) = (.ok file, b₃) := by
    unfold Storage.settle
    rw [bind_eq, run_bind hcommit]
    rfl
  refine ⟨file, ?_⟩
  unfold Storage.save
  refine Exists.imp (fun b' h' => ⟨_, h'⟩) (run_counted_quiet .save ?_ h₃)
  simp only [bind_eq, run_bind hbegin, run_bind hwrite, run_bind hfired]
  exact hsettle

end Bench
end ChunkVault
