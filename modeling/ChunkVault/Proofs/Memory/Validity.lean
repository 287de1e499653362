/-
# ChunkVault.Proofs.Memory.Validity -- rows that hold what rows should hold

No chunk is empty, and no file has a negative size. A store in memory does not look at what it is told to keep. So its
rows are valid as long as every call is (`Valid.doesAll`), whatever is done in how many transactions at once; and a
call that is not valid is accepted like any other, and its row is there for all to see once its transaction is
committed (`empty_chunk_accepted`, `negative_size_accepted`).
-/
import ChunkVault.Proofs.Memory.Quiet
import ChunkVault.Proofs.Memory.References

namespace ChunkVault

/-! ## Valid rows, valid calls -/

/-- A row of one of the two tables. -/
inductive StoredRow where
  | file (row : FileRecord)
  | chunk (row : ChunkRecord)

/-- A size is not negative, and a chunk is not empty. -/
def StoredRow.Valid : StoredRow → Prop
  | file f => 0 ≤ f.size
  | chunk c => c.bytes ≠ []

instance (row : StoredRow) : Decidable row.Valid :=
  match row with
  | .file f => inferInstanceAs (Decidable (0 ≤ f.size))
  | .chunk c => inferInstanceAs (Decidable (c.bytes ≠ []))

/-- A call that asks for valid rows only. -/
def Request.Valid : Request → Prop
  | insertChunk _ _ bytes => bytes ≠ []
  | finishFile _ _ size _ => 0 ≤ size
  | _ => True

namespace Memory

/-- All rows of both tables. -/
def Tables.rows (t : Tables) : List StoredRow := t.files.map .file ++ t.chunks.map .chunk

/-- All rows are valid. -/
def Tables.Valid (t : Tables) : Prop := ∀ row ∈ t.rows, row.Valid

instance (t : Tables) : Decidable t.Valid := inferInstanceAs (Decidable (∀ row ∈ t.rows, row.Valid))

namespace Tables

variable {t : Tables}

theorem valid_iff : t.Valid ↔ (∀ f ∈ t.files, 0 ≤ f.size) ∧ ∀ c ∈ t.chunks, c.bytes ≠ [] := by
  unfold Valid rows
  constructor
  · intro h
    exact ⟨fun f hf => h (.file f) (List.mem_append_left _ (List.mem_map_of_mem hf)),
      fun c hc => h (.chunk c) (List.mem_append_right _ (List.mem_map_of_mem hc))⟩
  · rintro ⟨hfiles, hchunks⟩ row hrow
    rcases List.mem_append.mp hrow with hrow | hrow
    · obtain ⟨f, hf, rfl⟩ := List.mem_map.mp hrow
      exact hfiles f hf
    · obtain ⟨c, hc, rfl⟩ := List.mem_map.mp hrow
      exact hchunks c hc

theorem Valid.empty : Tables.empty.Valid := fun _ hrow => absurd hrow List.not_mem_nil

/-- A change of one file that keeps its size. -/
theorem Valid.alterFile (h : t.Valid) (id : Uuid) {change : FileRecord → FileRecord}
    (hchange : ∀ f, 0 ≤ f.size → 0 ≤ (change f).size) : (t.alterFile id change).Valid := by
  obtain ⟨hfiles, hchunks⟩ := valid_iff.mp h
  refine valid_iff.mpr ⟨fun f hf => ?_, hchunks⟩
  obtain ⟨g, hg, rfl⟩ := List.mem_map.mp hf
  split
  · exact hchange g (hfiles g hg)
  · exact hfiles g hg

end Tables

/-- A write that brings a valid row. -/
def Write.Valid : Write → Prop
  | insertFile f => 0 ≤ f.size
  | insertChunk c => c.bytes ≠ []
  | finishFile _ size _ => 0 ≤ size
  | deleteChunks _ | deleteFile _ => True

/-- What a valid call leaves is valid. -/
theorem Write.Valid.of_leaves {q : Request} {v : q.Reply} {w : Write} (hq : q.Valid)
    (h : (CallRecord.ok q v).Leaves w) : w.Valid := by
  generalize hc : CallRecord.ok q v = c at h
  cases h with
  | insertFile tx id now => exact Int.le_refl 0
  | insertChunk tx file bytes id =>
    cases hc
    exact hq
  | finishFile tx file size ids =>
    cases hc
    exact hq
  | deleteChunks tx file rows => exact trivial
  | deleteFile tx file rows => exact trivial

/-- **A valid write keeps the rows valid.** -/
theorem Tables.Valid.apply {t : Tables} (h : t.Valid) {w : Write} (hw : w.Valid) (now : Timestamp) :
    (w.apply now t).Valid := by
  obtain ⟨hfiles, hchunks⟩ := valid_iff.mp h
  cases w with
  | insertFile f =>
    refine valid_iff.mpr ⟨fun g hg => ?_, hchunks⟩
    rcases List.mem_append.mp hg with hg | hg
    · exact hfiles g (List.mem_of_mem_filter hg)
    · rw [List.mem_singleton.mp hg]
      exact hw
  | insertChunk c =>
    refine valid_iff.mpr ⟨hfiles, fun d hd => ?_⟩
    rcases List.mem_append.mp hd with hd | hd
    · exact hchunks d (List.mem_of_mem_filter hd)
    · rw [List.mem_singleton.mp hd]
      exact hw
  | finishFile id size ids => exact h.alterFile id fun _ _ => hw
  | deleteChunks file => exact valid_iff.mpr ⟨hfiles, fun c hc => hchunks c (List.mem_of_mem_filter hc)⟩
  | deleteFile id =>
    exact valid_iff.mpr ⟨fun f hf => hfiles f (List.mem_of_mem_filter hf),
      fun c hc => hchunks c (List.mem_of_mem_filter hc)⟩

theorem Tables.Valid.apply_all {ws : List Write} {t : Tables} (h : t.Valid) (hws : ∀ w ∈ ws, w.Valid)
    (now : Timestamp) : (ws.foldl (Write.apply now) t).Valid := by
  induction ws generalizing t with
  | nil => exact h
  | cons w ws ih =>
    obtain ⟨hw, hws⟩ := List.forall_mem_cons.mp hws
    exact ih (h.apply hw now) hws

/-! ## Valid calls -/

namespace Store

/-- All rows are valid, and so are those that wait. -/
structure Valid (s : Store) : Prop where
  tables : s.tables.Valid
  waits : ∀ tx, ∀ w ∈ s.waiting tx, w.Valid

variable {s : Store} {tx : TxId} {file : Uuid}

theorem Valid.empty : Store.empty.Valid := ⟨.empty, fun _ _ hw => absurd hw List.not_mem_nil⟩

theorem Valid.discard (h : s.Valid) (tx : TxId) : (s.discard tx).Valid := by
  refine ⟨h.tables, fun n w hw => ?_⟩
  rw [waiting_discard] at hw
  split at hw
  · exact absurd hw List.not_mem_nil
  · exact h.waits n w hw

/-- **A valid call** keeps all rows valid. -/
theorem Valid.serve (h : s.Valid) {q : Request} (hq : q.Valid) : (s.serve q).2.Valid := by
  cases hpublishes : q.publishes with
  | false =>
    refine ⟨?_, fun n w hw => ?_⟩
    · rw [(Frame.serve q s).tables hpublishes]
      exact h.tables
    · rcases waiting_serve_cases hpublishes s n with hsame | hempty | ⟨w', v, hmore, hleaves, -⟩
      · exact h.waits n w (hsame ▸ hw)
      · rw [hempty] at hw
        exact absurd hw List.not_mem_nil
      · rw [hmore] at hw
        rcases List.mem_append.mp hw with hw | hw
        · exact h.waits n w hw
        · rw [List.mem_singleton.mp hw]
          exact .of_leaves hq hleaves
  | true =>
    cases q with
    | commit tx =>
      rcases serve_commit_cases s tx with ⟨-, e, hserve⟩ | ⟨-, hserve⟩
      · rw [hserve]
        exact h.discard tx
      · rw [hserve]
        exact ⟨h.tables.apply_all (h.waits tx) s.now, (h.discard tx).waits⟩
    | updateMetadata id data =>
      rcases serve_updateMetadata_cases s id data with ⟨-, hserve⟩ | ⟨-, hserve⟩
      · rw [hserve]
        exact ⟨h.tables.alterFile id fun _ hsize => hsize, h.waits⟩
      · rw [hserve]
        exact h
    | _ => cases hpublishes

/-- **Whatever is done with valid calls** keeps all rows valid. -/
theorem Valid.doesAll (h : s.Valid) {deeds : List Deed} (hvalid : ∀ q, .call q ∈ deeds → q.Valid) :
    (s.doesAll deeds).Valid := by
  induction deeds generalizing s with
  | nil => exact h
  | cons d deeds ih =>
    have hstep : (s.does d).Valid := by
      cases d with
      | call q => exact h.serve (hvalid q List.mem_cons_self)
      | drop tx => exact h.discard tx
      | switch faults => exact ⟨h.tables, h.waits⟩
    exact ih hstep fun q hq => hvalid q (List.mem_cons_of_mem _ hq)

/-! ## Calls that are not valid -/

/-- **An empty chunk is accepted**, and its row is there after the commit. -/
theorem empty_chunk_accepted (hf : s.faults = .none) (hsees : s.Sees tx file) :
    let t := (s.serve (.insertChunk tx file [])).2
    (s.serve (.insertChunk tx file [])).1 = .ok (Uuid.issue s.issued) ∧ (t.serve (.commit tx)).1 = .ok () ∧
      ⟨Uuid.issue s.issued, file, []⟩ ∈ (t.serve (.commit tx)).2.tables.chunks := by
  intro t
  have hserve := serve_insertChunk_quiet hf hsees []
  have ht : t = s.withChunk tx file [] := congrArg Prod.snd hserve
  have hft : t.faults = .none := by rw [ht]; exact hf
  have htables : (t.committed tx).tables =
      ((s.transaction tx).apply t.now s.tables).insertChunk ⟨Uuid.issue s.issued, file, []⟩ := by
    rw [← apply_withChunk hsees.isOpen, ht]
    rfl
  rw [serve_commit_quiet hft]
  refine ⟨congrArg Prod.fst hserve, rfl, ?_⟩
  show _ ∈ (t.committed tx).tables.chunks
  rw [htables]
  exact List.mem_append_right _ (List.mem_singleton.mpr rfl)

/-- **A negative size is accepted**, and is that of the file after the commit. -/
theorem negative_size_accepted (hf : s.faults = .none) (hsees : s.Sees tx file) (size : Int) (ids : List Uuid) :
    let t := (s.serve (.finishFile tx file size ids)).2
    (s.serve (.finishFile tx file size ids)).1 = .ok () ∧ (t.serve (.commit tx)).1 = .ok () ∧
      ∃ f ∈ (t.serve (.commit tx)).2.tables.files, f.id = file ∧ f.size = size := by
  intro t
  have hserve := serve_finishFile_quiet hsees size ids
  have ht : t = s.push tx (.finishFile file size ids) := congrArg Prod.snd hserve
  have hft : t.faults = .none := by rw [ht]; exact hf
  have htables : (t.committed tx).tables =
      ((s.transaction tx).apply t.now s.tables).finishFile t.now file size ids := by
    rw [ht]
    exact apply_pushed hsees.isOpen _ _
  rw [serve_commit_quiet hft]
  refine ⟨congrArg Prod.fst hserve, rfl, ?_⟩
  show ∃ f ∈ (t.committed tx).tables.files, _
  rw [htables]
  -- the file is there before it is finished, since the transaction sees it
  have hthere := hsees.visible
  rw [Transaction.fileVisible_eq_hasFile _ _ t.now] at hthere
  obtain ⟨f, hmem, hid⟩ := List.any_eq_true.mp hthere
  refine ⟨_, List.mem_map_of_mem hmem, ?_⟩
  rw [if_pos (of_decide_eq_true hid)]
  exact ⟨of_decide_eq_true hid, rfl⟩

end Store
end Memory
end ChunkVault
