/-
# ChunkVault.Proofs.Memory.Publication -- what a commit makes of the writes that waited

Until its commit a transaction is no part of the tables. The commit then applies all of its writes or none
of them (`Made.commit`). Applied to tables that use none of its ids, the writes of an upload add one file
row and the chunk rows that it lists, and touch nothing else; the writes of a removal are the deletion of
the file.
-/
import ChunkVault.Proofs.Memory.Waiting

namespace ChunkVault.Memory

/-- No row has one of these ids. -/
def Tables.Unused (t : Tables) (ids : List Uuid) : Prop :=
  (∀ f ∈ t.files, f.id ∉ ids) ∧ ∀ c ∈ t.chunks, c.id ∉ ids

/-- The row of a file as its upload leaves it. -/
def uploadedFile (made finished : Timestamp) (file : Uuid) (rows : List ChunkRecord) : FileRecord where
  id := file
  size := totalSize rows
  chunkIds := rows.map (·.id)
  metadata := none
  createdAt := made
  updatedAt := finished

/-! ## Applying writes -/

/-- Rows without those that have one of these ids. -/
def Tables.without (t : Tables) (file : Uuid) (chunks : List Uuid) : Tables :=
  ⟨t.files.filter (·.id ≠ file), t.chunks.filter (·.id ∉ chunks)⟩

theorem Tables.without_of_unused {t : Tables} {file : Uuid} {chunks : List Uuid}
    (h : t.Unused (file :: chunks)) : t.without file chunks = t := by
  have hfiles : t.files.filter (·.id ≠ file) = t.files := by
    rw [List.filter_eq_self]
    intro f hf
    exact decide_eq_true fun heq => h.1 f hf (heq ▸ List.mem_cons_self)
  have hchunks : t.chunks.filter (·.id ∉ chunks) = t.chunks := by
    rw [List.filter_eq_self]
    intro c hc
    exact decide_eq_true fun hmem => h.2 c hc (List.mem_cons_of_mem _ hmem)
  rw [Tables.without, hfiles, hchunks]

theorem apply_insertChunks (now : Timestamp) (t : Tables) (rows : List ChunkRecord)
    (hnodup : (rows.map (·.id)).Nodup) :
    (rows.map Write.insertChunk).foldl (Write.apply now) t =
      ⟨t.files, t.chunks.filter (·.id ∉ rows.map (·.id)) ++ rows⟩ := by
  induction rows generalizing t with
  | nil =>
    have hall : t.chunks.filter (·.id ∉ ([] : List ChunkRecord).map (·.id)) = t.chunks :=
      List.filter_eq_self.mpr fun c _ => decide_eq_true List.not_mem_nil
    rw [hall, List.append_nil]
    rfl
  | cons row rows ih =>
    rw [List.map_cons, List.nodup_cons] at hnodup
    rw [List.map_cons, List.foldl_cons, ih _ hnodup.2]
    show Tables.mk t.files ((t.chunks.filter (·.id ≠ row.id) ++ [row]).filter _ ++ rows) = _
    have hrow : [row].filter (·.id ∉ rows.map (·.id)) = [row] := by
      rw [List.filter_eq_self]
      intro c hc
      rw [List.mem_singleton.mp hc]
      exact decide_eq_true hnodup.1
    rw [List.filter_append, hrow, List.filter_filter, List.append_assoc]
    -- what is left are the two conditions on the old rows, in one order and in the other
    congr 2
    refine List.filter_congr fun c _ => ?_
    rw [Bool.eq_iff_iff]
    simp only [List.map_cons, List.mem_cons, decide_eq_true_eq, Bool.and_eq_true, not_or]
    exact and_comm

theorem Tables.alterFile_ids (t : Tables) (id : Uuid) {change : FileRecord → FileRecord}
    (hchange : ∀ f, (change f).id = f.id) : (t.alterFile id change).files.map (·.id) = t.files.map (·.id) := by
  show (t.files.map _).map _ = _
  rw [List.map_map]
  refine List.map_congr_left fun f _ => ?_
  show (if f.id = id then change f else f).id = f.id
  split
  · exact hchange f
  · rfl

/-- **The writes of an upload add its rows**, and replace those that have one of their ids. -/
theorem apply_uploadWrites {made now : Timestamp} {file : Uuid} {rows : List ChunkRecord} {t : Tables}
    (hnodup : (rows.map (·.id)).Nodup) :
    (uploadWrites made file rows).foldl (Write.apply now) t =
      ⟨(t.without file (rows.map (·.id))).files ++ [uploadedFile made now file rows],
        (t.without file (rows.map (·.id))).chunks ++ rows⟩ := by
  have hrows := apply_insertChunks now (t.insertFile ⟨file, 0, [], none, made, made⟩) rows hnodup
  rw [uploadWrites, List.foldl_cons, List.foldl_append]
  show Tables.finishFile (List.foldl _ (t.insertFile _) _) now file (totalSize rows) _ = _
  rw [hrows, Tables.finishFile, Tables.alterFile, Tables.insertFile]
  -- the change that finishes the file meets its own row alone
  have hothers : ∀ change : FileRecord → FileRecord,
      (t.files.filter (·.id ≠ file)).map (fun f => if f.id = file then change f else f) =
        t.files.filter (·.id ≠ file) := by
    intro change
    refine (List.map_congr_left fun f hf => ?_).trans (List.map_id _)
    exact if_neg (of_decide_eq_true (List.mem_filter.mp hf).2)
  simp only [List.map_append, hothers, List.map_cons, List.map_nil, if_true]
  rfl

/-- The writes of a removal delete the file: its chunks go with it either way. -/
theorem apply_removalWrites (now : Timestamp) (id : Uuid) (t : Tables) :
    (removalWrites id).foldl (Write.apply now) t = t.deleteFile id := by
  show (t.deleteChunks id).deleteFile id = t.deleteFile id
  simp [Tables.deleteFile, Tables.deleteChunks, List.filter_filter]

/-! ## Opening and closing a transaction -/

namespace Store

variable {lost : Request → Prop} {tx : TxId} {s s' : Store}

/-- A transaction that a store opens gets the next name. -/
theorem Made.begin (h : Made lost (.ok .begin tx) s s') : tx = s.nextTx ∧ s' = s.begin.2 := by
  have hsettles : Settles lost .begin s (.ok tx) s' := h
  rcases hsettles with ⟨ho, rfl⟩ | ⟨⟨e, he⟩, -⟩
  · exact ⟨Except.ok.inj ho, rfl⟩
  · cases he

/-- **A commit that succeeds applies what waited; one that fails applies nothing**, unless its reply was
lost. -/
theorem Made.commit {o : (Request.commit tx).Outcome} (h : Made lost ⟨.commit tx, some o⟩ s s')
    (hlost : ¬lost (.commit tx)) :
    o = .ok () ∧ s'.tables = (s.waiting tx).foldl (Write.apply s.now) s.tables ∨
      (∃ e, o = .error e) ∧ s'.tables = s.tables := by
  have hsettles : Settles lost (.commit tx) s o s' := h
  rcases hsettles with ⟨rfl, rfl⟩ | ⟨he, rfl | ⟨hl, -⟩⟩
  · rcases serve_commit_cases s tx with ⟨-, e, hserve⟩ | ⟨-, hserve⟩
    · rw [hserve]
      exact .inr ⟨⟨e, rfl⟩, rfl⟩
    · rw [hserve]
      exact .inl ⟨rfl, rfl⟩
  · exact .inr ⟨he, rfl⟩
  · exact absurd hl hlost

/-- Nothing waits in a transaction that a call has closed, if the call was made at all. -/
theorem Made.waiting_closed {c : CallRecord} (h : Made lost c s s') (hq : c.request.closes? = some tx) :
    s'.waiting tx = [] ∨ s' = s := by
  have hdiscard : (s.discard tx).waiting tx = [] := by rw [waiting_discard, if_pos rfl]
  have hserve : (s.serve c.request).2.waiting tx = [] := by
    cases hc : c.request with
    | commit n =>
      rw [hc] at hq
      obtain rfl := Option.some.inj hq
      rcases serve_commit_cases s n with ⟨-, e, hserve⟩ | ⟨-, hserve⟩ <;> rw [hserve] <;> exact hdiscard
    | rollback n =>
      rw [hc] at hq
      obtain rfl := Option.some.inj hq
      exact hdiscard
    | _ =>
      rw [hc] at hq
      cases hq
  rcases h.cases with rfl | rfl | rfl
  · exact .inr rfl
  · exact .inl hserve
  · rw [afterFailure, hq]
    exact .inl hdiscard

/-! ## The transaction of an upload -/

/-- What waits in the transaction of an upload when its last call has been made, and that the ids of its
rows are those that the store has issued for it. -/
theorem waiting_of_upload {tx : TxId} {file : Uuid} {rows : List ChunkRecord} {s s' : Store}
    (h : Moves lost (.ok .begin tx :: uploadCalls tx file rows) s s') :
    (∃ made, s'.waiting tx = uploadWrites made file rows) ∧ s'.tables = s.tables ∧
      file :: rows.map (·.id) = issuedBetween s.issued (s.issued + (rows.length + 1)) := by
  obtain ⟨s₀, s₁, hlook, hbegin, hupload⟩ := h
  obtain ⟨n, rfl⟩ := hlook.exists_fetches
  obtain ⟨rfl, rfl⟩ := hbegin.begin
  have hopen : ({ s with fetches := n }.begin.2).isOpen s.nextTx = true := by
    rw [isOpen_begin]
    simp
  have hempty : ({ s with fetches := n }.begin.2).waiting s.nextTx = [] := by
    rw [waiting, transaction_begin, if_pos rfl]
    rfl
  have htables : s'.tables = s.tables :=
    hupload.tables_eq fun c hc => publishes_of_writesTo? (writesTo?_of_uploadCalls hc)
  obtain ⟨ws, -, hwaiting, hids, hleft⟩ := hupload.adds (fun c => writesTo?_of_uploadCalls) hopen
  obtain ⟨made, rfl⟩ := hleft.upload
  have hwaiting' : s'.waiting s.nextTx = uploadWrites made file rows := by
    rw [hwaiting, hempty, List.nil_append]
  refine ⟨⟨made, hwaiting'⟩, htables, ?_⟩
  have hissued : newIds (uploadWrites made file rows) = issuedBetween s.issued s'.issued := hids
  rw [newIds_uploadWrites] at hissued
  -- the number of the ids says how many the store has issued
  have hlength : rows.length + 1 = s'.issued - s.issued := by
    have := congrArg List.length hissued
    rwa [issuedBetween, List.length_map, List.length_range', List.length_cons, List.length_map] at this
  rw [hissued, hlength]
  rw [issuedBetween, issuedBetween, Nat.add_sub_cancel_left]

/-- **What the tables hold after the commit of an upload.** The ids of its rows are those that the store has
issued for it, and they have to be different from each other. -/
theorem tables_of_upload {tx : TxId} {file : Uuid} {rows : List ChunkRecord} {s s' : Store}
    (h : Moves lost (.ok .begin tx :: (uploadCalls tx file rows ++ [.ok (.commit tx) ()])) s s')
    (hlost : ¬lost (.commit tx))
    (hnodup : (issuedBetween s.issued (s.issued + (rows.length + 1))).Nodup) :
    ∃ made finished, file :: rows.map (·.id) = issuedBetween s.issued (s.issued + (rows.length + 1)) ∧
      s'.tables = ⟨(s.tables.without file (rows.map (·.id))).files ++ [uploadedFile made finished file rows],
        (s.tables.without file (rows.map (·.id))).chunks ++ rows⟩ := by
  rw [← List.cons_append] at h
  obtain ⟨s₁, hupload, s₂, s₃, hlook, hcommit, hlook'⟩ := moves_append.mp h
  obtain ⟨⟨made, hwaiting⟩, htables, hids⟩ := waiting_of_upload hupload
  obtain ⟨m, rfl⟩ := hlook.exists_fetches
  obtain ⟨n, rfl⟩ := hlook'.exists_fetches
  rcases hcommit.commit hlost with ⟨-, h₃⟩ | ⟨⟨e, he⟩, -⟩
  · refine ⟨made, s₁.now, hids, ?_⟩
    have happly : s₃.tables = (uploadWrites made file rows).foldl (Write.apply s₁.now) s.tables := by
      rw [h₃, ← htables, ← hwaiting]
      rfl
    rw [← hids] at hnodup
    exact happly.trans (apply_uploadWrites (List.nodup_cons.mp hnodup).2)
  · cases he

end Store
end ChunkVault.Memory
