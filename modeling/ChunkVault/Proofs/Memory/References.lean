/-
# ChunkVault.Proofs.Memory.References -- chunks and the files that they belong to

A chunk is accepted by a transaction only if the transaction sees the file that it belongs to. The look is taken
when the chunk is inserted and not again when it is committed, so a commit that comes in between may take the file
away: it *undercuts* the chunk.

As long as no commit undercuts a chunk, every chunk in the tables belongs to a file there, whatever else is done in
how many transactions at once. And where one does, the chunk outlives its file as soon as its own transaction is
committed, which succeeds (`references_unless_undercut`).
-/
import ChunkVault.Proofs.Memory.Buffering

namespace ChunkVault.Memory

/-- Every chunk belongs to a file that is there. -/
def Tables.Referential (t : Tables) : Prop := ∀ c ∈ t.chunks, t.hasFile c.fileId = true

instance (t : Tables) : Decidable t.Referential :=
  inferInstanceAs (Decidable (∀ c ∈ t.chunks, t.hasFile c.fileId = true))

/-! ## What waits -/

/-- Every chunk among these writes is inserted where its file is there, if these files are there before. -/
def Refers (there : Uuid → Bool) : List Write → Prop
  | [] => True
  | w :: ws => (∀ c, w = .insertChunk c → there c.fileId = true) ∧ Refers (fun id => w.keepsFile id (there id)) ws

section Refers

variable {there there' : Uuid → Bool} {ws : List Write} {w : Write} {t : Tables}

theorem keepsFile_mono {id : Uuid} {b b' : Bool} (h : b = true → b' = true) :
    w.keepsFile id b = true → w.keepsFile id b' = true := by
  cases w with
  | insertFile f =>
    simp only [Write.keepsFile]
    split
    · exact fun _ => rfl
    · exact h
  | deleteFile gone =>
    simp only [Write.keepsFile]
    split
    · exact fun hb => hb
    · exact h
  | _ => exact h

/-- What matters of the files are those of the chunks that are inserted. -/
theorem Refers.mono (h : Refers there ws)
    (hthere : ∀ c, .insertChunk c ∈ ws → there c.fileId = true → there' c.fileId = true) : Refers there' ws := by
  induction ws generalizing there there' with
  | nil => trivial
  | cons w ws ih =>
    refine ⟨fun c hc => hthere c (hc ▸ List.mem_cons_self) (h.1 c hc), ih h.2 fun c hc => ?_⟩
    exact keepsFile_mono (hthere c (List.mem_cons_of_mem w hc))

theorem refers_concat : Refers there (ws ++ [w]) ↔
    Refers there ws ∧ ∀ c, w = .insertChunk c → ws.foldl (Write.keepsFile c.fileId) (there c.fileId) = true := by
  induction ws generalizing there with
  | nil => simp [Refers]
  | cons v ws ih => rw [List.cons_append, Refers, Refers, ih, and_assoc]; rfl

/-- **A write keeps every chunk with its file**, if it inserts none without. -/
theorem Tables.Referential.apply (h : t.Referential) (now : Timestamp)
    (hw : ∀ c, w = .insertChunk c → t.hasFile c.fileId = true) : (w.apply now t).Referential := by
  intro c hc
  rw [hasFile_apply]
  cases w with
  | insertFile f =>
    simp only [Write.keepsFile]
    split
    · rfl
    · exact h c hc
  | insertChunk d =>
    rcases List.mem_append.mp hc with hc | hc
    · exact h c (List.mem_of_mem_filter hc)
    · rw [List.mem_singleton.mp hc]
      exact hw d rfl
  | finishFile file size ids => exact h c hc
  | deleteChunks file => exact h c (List.mem_of_mem_filter hc)
  | deleteFile gone =>
    -- the chunks of the file are deleted with it
    obtain ⟨hc, hother⟩ := List.mem_filter.mp hc
    simp only [Write.keepsFile]
    rw [if_neg fun heq => of_decide_eq_true hother heq.symm]
    exact h c hc

/-- **Writes keep every chunk with its file**, if each chunk is inserted where its file is there. -/
theorem Tables.Referential.replay (h : t.Referential) (now : Timestamp) (hws : Refers t.hasFile ws) :
    (ws.foldl (Write.apply now) t).Referential := by
  induction ws generalizing t with
  | nil => exact h
  | cons w ws ih =>
    refine ih (h.apply now hws.1) ?_
    have hsame : (w.apply now t).hasFile = fun id => w.keepsFile id (t.hasFile id) :=
      funext fun id => hasFile_apply now t w id
    rw [hsame]
    exact hws.2

end Refers

/-! ## What is done to a store -/

/-- What can be done to a store: a call, within a transaction or outside of any; letting go of a transaction;
turning the switches. -/
inductive Deed where
  | call (request : Request)
  | drop (tx : TxId)
  | switch (faults : Faults)

namespace Store

/-- What becomes of a store by a deed. -/
def does (s : Store) : Deed → Store
  | .call q => (s.serve q).2
  | .drop tx => s.discard tx
  | .switch faults => { s with faults := faults }

/-- What becomes of a store by several deeds, one after another. -/
def doesAll (s : Store) (deeds : List Deed) : Store := deeds.foldl does s

/-- A commit takes away the file of a chunk that waits in another transaction. -/
def Undercuts (s : Store) (tx : TxId) : Prop :=
  ∃ other c, other ≠ tx ∧ .insertChunk c ∈ s.waiting other ∧ s.tables.hasFile c.fileId = true ∧
    (s.serve (.commit tx)).2.tables.hasFile c.fileId = false

/-- None of the deeds undercuts a chunk. -/
def Spared (s : Store) : List Deed → Prop
  | [] => True
  | d :: deeds => (∀ tx, d = .call (.commit tx) → ¬s.Undercuts tx) ∧ (s.does d).Spared deeds

/-- Every chunk belongs to a file that is there, and so does every chunk that waits, as far as the transaction
that it waits in can see. -/
structure Refers (s : Store) : Prop where
  tables : s.tables.Referential
  waits : ∀ tx, Memory.Refers s.tables.hasFile (s.waiting tx)

variable {s : Store}

theorem Refers.empty : Store.empty.Refers := ⟨fun _ hc => absurd hc List.not_mem_nil, fun _ => trivial⟩

/-- What waits after a push: what waited before, and the new write if it was pushed to that transaction. -/
theorem waiting_push_cases (s : Store) (tx : TxId) (w : Write) (n : TxId) :
    (s.push tx w).waiting n = s.waiting n ∨ n = tx ∧ (s.push tx w).waiting n = s.waiting n ++ [w] := by
  by_cases h : n = tx ∧ s.isOpen tx = true
  · obtain ⟨rfl, hopen⟩ := h
    exact .inr ⟨rfl, waiting_push hopen w⟩
  · refine .inl ?_
    rw [waiting, transaction_push, if_neg h]
    rfl

/-- **A call that changes no rows** leaves what waits, forgets it, or adds the write that it leaves when it succeeds; a
chunk that it adds is one whose file its transaction sees. -/
theorem waiting_serve_cases {q : Request} (hq : q.publishes = false) (s : Store) (n : TxId) :
    (s.serve q).2.waiting n = s.waiting n ∨ (s.serve q).2.waiting n = [] ∨
      ∃ w v, (s.serve q).2.waiting n = s.waiting n ++ [w] ∧ (CallRecord.ok q v).Leaves w ∧
        ∀ c, w = .insertChunk c → (s.transaction n).fileVisible s.tables c.fileId = true := by
  have hpush : ∀ (s' : Store) tx w v, (CallRecord.ok q v).Leaves w → (∀ c, w ≠ .insertChunk c) →
      s'.active = (s.push tx w).active → s'.waiting n = s.waiting n ∨ s'.waiting n = [] ∨
        ∃ w v, s'.waiting n = s.waiting n ++ [w] ∧ (CallRecord.ok q v).Leaves w ∧
          ∀ c, w = .insertChunk c → (s.transaction n).fileVisible s.tables c.fileId = true := by
    intro s' tx w v hleaves hw hactive
    have hsame : s'.waiting n = (s.push tx w).waiting n := by
      rw [waiting, waiting, transaction, transaction, hactive]
    rw [hsame]
    exact (waiting_push_cases s tx w n).imp_right fun h => .inr ⟨w, v, h.2, hleaves, fun c hc => absurd hc (hw c)⟩
  cases q with
  | begin =>
    show s.begin.2.waiting n = s.waiting n ∨ s.begin.2.waiting n = [] ∨ _
    rw [waiting, transaction_begin]
    split
    · exact .inr (.inl rfl)
    · exact .inl rfl
  | insertFile tx => exact hpush _ tx _ _ (.insertFile tx _ s.now) (by rintro c ⟨⟩) rfl
  | insertChunk tx file bytes =>
    have htried : (s.tried tx).waiting n = s.waiting n := by
      by_cases hn : n = tx
      · rw [hn, waiting_tried]
      · exact congrArg Transaction.writes (transaction_keep_of_ne s _ hn)
    rcases serve_insertChunk_cases s tx file bytes with ⟨-, e, hserve⟩ | ⟨hvisible, hserve⟩
    · rw [hserve]
      exact .inl htried
    · rw [hserve]
      have hcases := waiting_push_cases (s.tried tx) tx (.insertChunk ⟨Uuid.issue s.issued, file, bytes⟩) n
      rw [htried] at hcases
      refine hcases.imp_right fun h => .inr ⟨_, _, h.2, .insertChunk tx file bytes _, fun c hc => ?_⟩
      cases hc
      exact h.1 ▸ hvisible
  | finishFile tx file size ids =>
    rcases serve_finishFile_cases s tx file size ids with ⟨-, hserve⟩ | ⟨-, hserve⟩
    · rw [hserve]
      exact hpush _ tx _ _ (.finishFile tx file size ids) (by rintro c ⟨⟩) rfl
    · rw [hserve]
      exact .inl rfl
  | deleteChunks tx file => exact hpush _ tx _ 0 (.deleteChunks tx file 0) (by rintro c ⟨⟩) rfl
  | deleteFile tx file => exact hpush _ tx _ 0 (.deleteFile tx file 0) (by rintro c ⟨⟩) rfl
  | commit tx => cases hq
  | rollback tx =>
    show (s.discard tx).waiting n = s.waiting n ∨ (s.discard tx).waiting n = [] ∨ _
    rw [waiting_discard]
    split
    · exact .inr (.inl rfl)
    · exact .inl rfl
  | findFile id => exact .inl rfl
  | findChunk id =>
    rw [serve_findChunk]
    exact .inl rfl
  | updateMetadata id data => cases hq

/-! ## One deed -/

theorem Refers.discard (h : s.Refers) (tx : TxId) : (s.discard tx).Refers := by
  refine ⟨h.tables, fun n => ?_⟩
  rw [waiting_discard]
  split
  · trivial
  · exact h.waits n

/-- A call that changes no rows. -/
theorem Refers.serve (h : s.Refers) {q : Request} (hq : q.publishes = false) : (s.serve q).2.Refers := by
  have htables : (s.serve q).2.tables = s.tables := (Frame.serve q s).tables hq
  refine ⟨htables ▸ h.tables, fun n => ?_⟩
  rw [htables]
  rcases waiting_serve_cases hq s n with hsame | hempty | ⟨w, v, hmore, -, hvisible⟩
  · exact hsame ▸ h.waits n
  · rw [hempty]
    trivial
  · rw [hmore]
    exact refers_concat.mpr ⟨h.waits n, hvisible⟩

/-- **A commit that undercuts nothing**, and so leaves every chunk that waits with its file. -/
theorem Refers.commit (h : s.Refers) {tx : TxId} (hspared : ¬s.Undercuts tx) : (s.serve (.commit tx)).2.Refers := by
  rcases serve_commit_cases s tx with ⟨-, e, hserve⟩ | ⟨-, hserve⟩
  · rw [hserve]
    exact h.discard tx
  · have hcommitted : (s.serve (.commit tx)).2 = s.committed tx := congrArg Prod.snd hserve
    rw [hcommitted]
    refine ⟨h.tables.replay s.now (h.waits tx), fun n => ?_⟩
    have hwaiting : (s.committed tx).waiting n = if n = tx then [] else s.waiting n := waiting_discard s tx n
    rw [hwaiting]
    split
    · trivial
    · next hn =>
      refine (h.waits n).mono fun c hc hthere => ?_
      by_contra hgone
      refine hspared ⟨n, c, hn, hc, hthere, ?_⟩
      rw [hcommitted]
      exact eq_false_of_ne_true hgone

theorem Refers.updateMetadata (h : s.Refers) (id : Uuid) (data : Option Bytes) :
    (s.serve (.updateMetadata id data)).2.Refers := by
  rcases serve_updateMetadata_cases s id data with ⟨-, hserve⟩ | ⟨-, hserve⟩
  · rw [hserve]
    have hfiles : (s.annotated id data).tables.hasFile = s.tables.hasFile :=
      funext fun other => alterFile_hasFile s.tables id other fun _ => rfl
    refine ⟨fun c hc => ?_, fun n => ?_⟩
    · rw [hfiles]
      exact h.tables c hc
    · rw [hfiles]
      exact h.waits n
  · rw [hserve]
    exact h

/-- **A deed that undercuts nothing keeps every chunk with its file.** -/
theorem Refers.does (h : s.Refers) {d : Deed} (hspared : ∀ tx, d = .call (.commit tx) → ¬s.Undercuts tx) :
    (s.does d).Refers := by
  cases d with
  | drop tx => exact h.discard tx
  | switch faults => exact ⟨h.tables, h.waits⟩
  | call q =>
    cases q with
    | commit tx => exact h.commit (hspared tx rfl)
    | updateMetadata id data => exact h.updateMetadata id data
    | _ => exact h.serve rfl

theorem Refers.doesAll (h : s.Refers) {deeds : List Deed} (hspared : s.Spared deeds) : (s.doesAll deeds).Refers := by
  induction deeds generalizing s with
  | nil => exact h
  | cons d deeds ih => exact ih (h.does hspared.1) hspared.2

/-! ## Chunks that are undercut -/

end Store

/-- A write that neither removes a chunk nor brings its file. -/
def Write.Ignores (c : ChunkRecord) : Write → Prop
  | insertFile f => f.id ≠ c.fileId
  | insertChunk d => d.id ≠ c.id
  | finishFile .. => True
  | deleteChunks file | deleteFile file => file ≠ c.fileId

/-- A chunk stays without its file, as long as the writes ignore it. -/
theorem outlives_apply_all {ws : List Write} {c : ChunkRecord} {t : Tables} (hc : c ∈ t.chunks)
    (hgone : t.hasFile c.fileId = false) (hws : ∀ w ∈ ws, w.Ignores c) (now : Timestamp) :
    c ∈ (ws.foldl (Write.apply now) t).chunks ∧ (ws.foldl (Write.apply now) t).hasFile c.fileId = false := by
  induction ws generalizing t with
  | nil => exact ⟨hc, hgone⟩
  | cons w ws ih =>
    obtain ⟨hw, hws⟩ := List.forall_mem_cons.mp hws
    refine ih ?_ ?_ hws
    · cases w with
      | insertFile f => exact hc
      | insertChunk d => exact List.mem_append_left _ (List.mem_filter.mpr ⟨hc, decide_eq_true (Ne.symm hw)⟩)
      | finishFile file size ids => exact hc
      | deleteChunks file => exact List.mem_filter.mpr ⟨hc, decide_eq_true (Ne.symm hw)⟩
      | deleteFile file => exact List.mem_filter.mpr ⟨hc, decide_eq_true (Ne.symm hw)⟩
    · rw [hasFile_apply, hgone]
      cases w with
      | insertFile f => exact if_neg hw
      | deleteFile file => exact if_neg hw
      | _ => rfl

/-- A file that is not there is not brought by writes that insert no such file. -/
theorem hasFile_apply_all_of_absent {ws : List Write} {id : Uuid} {t : Tables} (hgone : t.hasFile id = false)
    (hws : ∀ f, .insertFile f ∈ ws → f.id ≠ id) (now : Timestamp) :
    (ws.foldl (Write.apply now) t).hasFile id = false := by
  induction ws generalizing t with
  | nil => exact hgone
  | cons w ws ih =>
    refine ih ?_ fun f hf => hws f (List.mem_cons_of_mem w hf)
    rw [hasFile_apply, hgone]
    cases w with
    | insertFile f => exact if_neg (hws f List.mem_cons_self)
    | deleteFile file => exact ite_self _
    | _ => rfl

namespace Store

/-- **A chunk whose file was taken away outlives it**, once its own transaction is committed. -/
theorem outlives_of_commit {s : Store} {tx : TxId} {c : ChunkRecord} {front rest : List Write}
    (hworks : s.faults.commits = false) (hwaits : s.waiting tx = front ++ .insertChunk c :: rest)
    (hgone : s.tables.hasFile c.fileId = false) (hfront : ∀ f, .insertFile f ∈ front → f.id ≠ c.fileId)
    (hrest : ∀ w ∈ rest, w.Ignores c) :
    (s.serve (.commit tx)).1 = .ok () ∧ c ∈ (s.serve (.commit tx)).2.tables.chunks ∧
      (s.serve (.commit tx)).2.tables.hasFile c.fileId = false := by
  rcases serve_commit_cases s tx with ⟨hfault, -⟩ | ⟨-, hserve⟩
  · rw [hworks] at hfault
    cases hfault
  · have htables : (s.committed tx).tables =
        rest.foldl (Write.apply s.now) ((front.foldl (Write.apply s.now) s.tables).insertChunk c) := by
      show (s.waiting tx).foldl (Write.apply s.now) s.tables = _
      rw [hwaits, List.foldl_append]
      rfl
    rw [hserve]
    refine ⟨rfl, ?_⟩
    show c ∈ (s.committed tx).tables.chunks ∧ (s.committed tx).tables.hasFile c.fileId = false
    rw [htables]
    refine outlives_apply_all ?_ ?_ hrest s.now
    · exact List.mem_append_right _ (List.mem_singleton.mpr rfl)
    · exact hasFile_apply_all_of_absent hgone hfront s.now

/-- **Every chunk belongs to a file that is there, unless a commit has undercut it.** This holds of everything that
is done in any number of transactions, one deed after another. Where a commit takes away the file of a chunk that
waits in another transaction, and that transaction neither brings the file itself nor removes the chunk again, the
other transaction can be committed all the same, and leaves the chunk without its file. -/
theorem references_unless_undercut (deeds : List Deed) :
    (Store.empty.Spared deeds → (Store.empty.doesAll deeds).tables.Referential) ∧
    ∀ tx other c front rest, other ≠ tx →
      let s := Store.empty.doesAll deeds
      let s' := (s.serve (.commit tx)).2
      s.faults.commits = false → s.waiting other = front ++ .insertChunk c :: rest →
      s.tables.hasFile c.fileId = true → s'.tables.hasFile c.fileId = false →
      (∀ f, .insertFile f ∈ front → f.id ≠ c.fileId) → (∀ w ∈ rest, w.Ignores c) →
      s.Undercuts tx ∧ (s'.serve (.commit other)).1 = .ok () ∧
        c ∈ (s'.serve (.commit other)).2.tables.chunks ∧
        ¬(s'.serve (.commit other)).2.tables.Referential := by
  refine ⟨fun hspared => (Refers.empty.doesAll hspared).tables, ?_⟩
  intro tx other c front rest hne s s' hworks hwaits hthere hgone hfront hrest
  have hmem : .insertChunk c ∈ s.waiting other := by
    rw [hwaits]
    exact List.mem_append_right _ List.mem_cons_self
  have hs' : s' = s.committed tx := by
    rcases serve_commit_cases s tx with ⟨hfault, -⟩ | ⟨-, hserve⟩
    · rw [hworks] at hfault
      cases hfault
    · exact congrArg Prod.snd hserve
  have hwaits' : s'.waiting other = front ++ .insertChunk c :: rest := by
    rw [hs', ← hwaits]
    exact (waiting_discard s tx other).trans (if_neg hne)
  have hworks' : s'.faults.commits = false := by rw [hs']; exact hworks
  obtain ⟨hok, hstays, hwithout⟩ := outlives_of_commit hworks' hwaits' hgone hfront hrest
  refine ⟨⟨other, c, hne, hmem, hthere, hgone⟩, hok, hstays, fun hall => ?_⟩
  exact absurd (hall c hstays) (ne_true_of_eq_false hwithout)

/-- A chunk waits for a file of another transaction while a third one deletes the file. Up to its commit nothing is
undercut and the references hold; after it the chunk can be committed without its file. -/
theorem references_of_three_transactions :
    let deeds : List Deed := [.call .begin, .call (.insertFile 0), .call (.insertChunk 0 (.issue 0) [1]),
      .call (.commit 0), .call .begin, .call (.insertChunk 1 (.issue 0) [2]), .call .begin,
      .call (.deleteFile 2 (.issue 0))]
    let s := Store.empty.doesAll deeds
    Store.empty.Spared deeds ∧ s.tables.Referential ∧ s.waiting 1 = [.insertChunk ⟨.issue 2, .issue 0, [2]⟩] ∧
      s.Undercuts 2 ∧ ¬((s.serve (.commit 2)).2.serve (.commit 1)).2.tables.Referential := by
  intro deeds s
  have hspared : Store.empty.Spared deeds := by
    refine ⟨nofun, nofun, nofun, fun tx htx => ?_, nofun, nofun, nofun, nofun, trivial⟩
    -- the one commit is the first, and there is no file before it
    cases htx
    rintro ⟨other, c, -, -, hthere, -⟩
    exact Bool.noConfusion hthere
  obtain ⟨hrefers, hundercut⟩ := references_unless_undercut deeds
  obtain ⟨hcut, -, -, hbroken⟩ := hundercut 2 1 ⟨.issue 2, .issue 0, [2]⟩ [] [] (by decide) rfl rfl (by decide)
    (by decide) nofun nofun
  exact ⟨hspared, hrefers hspared, rfl, hcut, hbroken⟩

/-- **References do not hold after every commit**: a chunk is accepted for a file that is there, the file is deleted,
and the commit of the chunk succeeds. -/
theorem chunk_outlives_file :
    let deeds : List Deed := [.call .begin, .call (.insertFile 0), .call (.commit 0), .call .begin,
      .call (.insertChunk 1 (.issue 0) [120]), .call .begin, .call (.deleteFile 2 (.issue 0)), .call (.commit 2)]
    let s := Store.empty.doesAll deeds
    (s.serve (.commit 1)).1 = .ok () ∧ ¬(s.serve (.commit 1)).2.tables.Referential := by
  decide

end Store
end ChunkVault.Memory
