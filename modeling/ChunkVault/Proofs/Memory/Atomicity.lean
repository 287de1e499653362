/-
# ChunkVault.Proofs.Memory.Atomicity -- a save is all or nothing

A save over a store in memory, with no other writer, in all surroundings: `AnswersAmidst` lets every call
fail before the store or in it, lets the token fire at every query, and lets others look at the store all
the while. Any reply may be lost but that to a commit. Either the save succeeds, and its file and its chunks
are all that is new in the tables, or it fails, and the tables are what they were. In between nobody sees a
row of it.

For an upload to add its rows to the others, its ids have to be new: `Fresh` says so of the ids that the
store issues next. What is said of saves that fail, and of who looks at the store, does not depend on it.
-/
import ChunkVault.Proofs.Memory.Bench
import ChunkVault.Proofs.Memory.Publication

namespace ChunkVault.Memory

open Program

/-- The file of this id is new, with one row and with the chunk rows that it lists, which are the pieces of
this content, and nothing else has changed. -/
def Tables.Adopts (t t' : Tables) (id : Uuid) (content : Bytes) : Prop :=
  ∃ (row : FileRecord) (rows : List ChunkRecord), row.id = id ∧ row.size = content.length ∧
    row.chunkIds = rows.map (·.id) ∧ RowsOf id (pieces content) rows ∧
    t'.files = t.files ++ [row] ∧ t'.chunks = t.chunks ++ rows

namespace Store

variable {lost : Request → Prop}

/-- The next `n` ids that a store issues are pairwise different, and no row has one of them. -/
def Fresh (s : Store) (n : Nat) : Prop :=
  (issuedBetween s.issued (s.issued + n)).Nodup ∧ s.tables.Unused (issuedBetween s.issued (s.issued + n))

/-! ## Saves that fail -/

/-- A save that fails has changed no row, in whatever state its calls have left the store. -/
theorem tables_of_save_error {token : Token} {source : Source} {es : List Exchange} {e : StorageError}
    {s s' : Store} (hlost : ∀ tx, ¬lost (.commit tx)) (h : SaveRun token source es (.error e))
    (hmoves : Moves lost (calls es) s s') :
    s'.tables = s.tables := by
  rcases h.publishes_or_commits with ⟨-, hpublishes⟩ | ⟨tx, file, rows, o, -, hr, hcalls⟩
  · exact hmoves.tables_eq hpublishes
  · -- the calls up to the commit change no row, and the commit has failed
    rw [hcalls, ← List.cons_append] at hmoves
    obtain ⟨s₁, hfront, s₂, s₃, hlook, hcommit, hlook'⟩ := moves_append.mp hmoves
    have h₁ : s₁.tables = s.tables := by
      refine hfront.tables_eq fun c hc => ?_
      rcases List.mem_cons.mp hc with rfl | hc
      · rfl
      · exact publishes_of_writesTo? (writesTo?_of_uploadCalls hc)
    obtain ⟨m, rfl⟩ := hlook.exists_fetches
    obtain ⟨n, rfl⟩ := hlook'.exists_fetches
    rcases hcommit.commit (hlost tx) with ⟨rfl, -⟩ | ⟨-, h₃⟩
    · cases hr
    · exact h₃.trans h₁

/-! ## Saves that succeed -/

/-- **The commit of an upload adds its file and its chunks**, and nothing else. -/
theorem adopts_of_commit {tx : TxId} {file : Uuid} {content : Bytes} {rows : List ChunkRecord}
    {s s' : Store} (hlost : ¬lost (.commit tx)) (hfresh : s.Fresh ((pieces content).length + 1))
    (hrows : RowsOf file (pieces content) rows)
    (h : Moves lost (.ok .begin tx :: (uploadCalls tx file rows ++ [.ok (.commit tx) ()])) s s') :
    s.tables.Adopts s'.tables file content := by
  have hlen : rows.length = (pieces content).length := by rw [← hrows.bytes, List.length_map]
  rw [← hlen] at hfresh
  obtain ⟨made, finished, hids, htables⟩ := tables_of_upload h hlost hfresh.1
  have hunused : s.tables.Unused (file :: rows.map (·.id)) := by rw [hids]; exact hfresh.2
  rw [Tables.without_of_unused hunused] at htables
  refine ⟨uploadedFile made finished file rows, rows, rfl, ?_, rfl, hrows, ?_, ?_⟩
  · show totalSize rows = content.length
    rw [totalSize_eq, hrows.flatten]
  · rw [htables]
  · rw [htables]

/-! ## All or nothing -/

/-- What a look brings depends on the rows and on the switch for fetches alone. -/
theorem serve_look {q : Request} (hq : q.looks = true) {s s' : Store} (ht : s'.tables = s.tables)
    (hf : s'.faults.fetches = s.faults.fetches) : (s'.serve q).1 = (s.serve q).1 := by
  cases q with
  | findFile id =>
    show Except.ok (s'.tables.file? id) = Except.ok (s.tables.file? id)
    rw [ht]
  | findChunk id =>
    rw [serve_findChunk, serve_findChunk, ht, hf]
  | _ => cases hq

/-- **A save is all or nothing**, if a commit that fails applies nothing. It either succeeds, and the tables
have gained exactly its file and the chunks that the file lists, provided that their ids are new; or it
fails, and the tables are what they were. Until its last call, and ever after if it fails, whoever looks at
the store sees what was there before the save. -/
theorem save_all_or_nothing {token : Token} {source : Source} {es : List Exchange}
    {r : Except StorageError Uuid} {s s' : Store} (hlost : ∀ tx, ¬lost (.commit tx))
    (hrun : (Storage.save token source).Ends es r) (hstore : Along (AnswersAmidst lost) s es s') :
    ((∃ id, r = .ok id ∧ source.ending = .ended ∧
        (s.Fresh ((pieces source.delivered).length + 1) →
          s.tables.Adopts s'.tables id source.delivered)) ∨
      (∃ e, r = .error e) ∧ s'.tables = s.tables) ∧
    ∀ es₁ es₂ s₁, es = es₁ ++ es₂ → Along (AnswersAmidst lost) s es₁ s₁ →
      (calls es₂ ≠ [] ∨ ∃ e, r = .error e) →
      ∀ q : Request, q.looks = true → (s₁.serve q).1 = (s.serve q).1 := by
  have hmoves := along_calls hstore
  refine ⟨?_, ?_⟩
  · cases hsave : save_ends hrun with
    | unbegun hcalls hwhy => exact .inr ⟨⟨_, rfl⟩, tables_of_save_error hlost (save_ends hrun) hmoves⟩
    | rolledBack hrows hl hcalls hwhy =>
      exact .inr ⟨⟨_, rfl⟩, tables_of_save_error hlost (save_ends hrun) hmoves⟩
    | @committed tx file rows o hrows hend hcalls hwhy =>
      cases o with
      | ok u =>
        refine .inl ⟨file, rfl, hend, fun hfresh => ?_⟩
        rw [hcalls] at hmoves
        exact adopts_of_commit (hlost tx) hfresh hrows hmoves
      | error e => exact .inr ⟨⟨_, rfl⟩, tables_of_save_error hlost (save_ends hrun) hmoves⟩
  · intro es₁ es₂ s₁ hes hstore₁ hwhen q hq
    have hmoves₁ := along_calls hstore₁
    have hfetches : s₁.faults.fetches = s.faults.fetches :=
      hmoves₁.invariant (I := fun t => t.faults.fetches = s.faults.fetches)
        (fun _ _ hl hi => (hl.frame .begin).fetches.trans hi)
        (fun _ _ _ _ hm hi => hm.frame.fetches.trans hi) rfl
    refine serve_look hq ?_ hfetches
    by_cases hlast : calls es₂ = []
    · -- the calls have all been made, so the save has failed
      obtain ⟨e, rfl⟩ := hwhen.resolve_left fun hne => hne hlast
      have hcalls : calls es₁ = calls es := by rw [hes, calls_append, hlast, List.append_nil]
      rw [hcalls] at hmoves₁
      exact tables_of_save_error hlost (save_ends hrun) hmoves₁
    · -- a call is still to come, so none of these was the commit
      have htransacted := save_transacted hrun
      rw [hes, calls_append] at htransacted
      exact hmoves₁.tables_eq fun c hc => htransacted.publishes_front hlast hc

/-- Three bytes saved on a bench whose store is empty become one file with one chunk. If they are saved once more,
and the chunk is refused this time, that file is still the only one. -/
theorem save_all_or_nothing_three_bytes :
    let source : Source := [.bytes [97, 98, 99]]
    let b := ((Bench.new (.memory .empty)).run (Storage.save .own source)).2
    let y := { b with hooks := [⟨.insertChunk, 0, some (.unknown "disk" []), none, false⟩] }.run
      (Storage.save .own source)
    ∃ s s', b.Holds s ∧ empty.tables.Adopts s.tables (Uuid.issue 0) [97, 98, 99] ∧
      y.1 = .error (.unknown "disk" []) ∧ y.2.Holds s' ∧ s'.tables = s.tables := by
  intro source b y
  -- both saves are runs in the surroundings of a store
  obtain ⟨es, s, hends, hheld, hstore⟩ :=
    Bench.run_answers (fun q => q.publishes = false) (b := Bench.new (.memory .empty)) rfl (Storage.save .own source)
  obtain ⟨es', s', hends', hheld', hstore'⟩ :=
    Bench.run_answers (fun q => q.publishes = false)
      (b := { b with hooks := [⟨.insertChunk, 0, some (.unknown "disk" []), none, false⟩] }) hheld
      (Storage.save .own source)
  have hpieces : pieces source.delivered = [[97, 98, 99]] := pieces_of_le (by decide) (by decide)
  have hfresh : empty.Fresh ((pieces source.delivered).length + 1) := by
    rw [hpieces]
    exact ⟨by decide, nofun, nofun⟩
  have hresult : ((Bench.new (.memory .empty)).run (Storage.save .own source)).1 = .ok (Uuid.issue 0) := rfl
  have hresult' : y.1 = .error (.unknown "disk" []) := rfl
  rw [hresult] at hends
  have hadopts : empty.tables.Adopts s.tables (Uuid.issue 0) [97, 98, 99] := by
    rcases (save_all_or_nothing (fun _ => nofun) hends (hstore.mono fun _ _ _ _ => Answers.amidst)).1 with
      ⟨id, hid, -, hadopts⟩ | ⟨⟨e, he⟩, -⟩
    · obtain rfl := Except.ok.inj hid
      exact hadopts hfresh
    · cases he
  have hkept : s'.tables = s.tables := by
    rcases (save_all_or_nothing (fun _ => nofun) hends' (hstore'.mono fun _ _ _ _ => Answers.amidst)).1 with
      ⟨id, hid, -⟩ | ⟨-, hkept⟩
    · cases hresult'.symm.trans hid
    · exact hkept
  exact ⟨s, s', hheld, hadopts, hresult', hheld', hkept⟩

end Store
end ChunkVault.Memory
