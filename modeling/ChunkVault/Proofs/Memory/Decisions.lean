/-
# ChunkVault.Proofs.Memory.Decisions -- what operations answer that are done one after another

The engine without its calls, its transactions and its clock: each operation looks at the tables once, and
answers and changes them at the same moment (`Decides`). `Decided` follows a list of such decisions, from the
first to the last.

Where every upload brings ids of its own (`Fresh`), nothing of what was acknowledged is lost
(`Decided.acknowledged`): a file that was saved is there with its content until it is removed, metadata is
what was set last, and of a file that was removed nothing is left.
-/
import ChunkVault.Proofs.Smooth
import ChunkVault.Proofs.Memory.Changes

namespace ChunkVault

/-- An open file without the stamps of its row. -/
def StoredFile.untimed (file : StoredFile) : StoredFile := { file with info := file.info.untimed }

/-- What an operation answers, without stamps. -/
def Operation.untimed : (op : Operation) → op.Value → op.Value
  | save .., id => id
  | «open» .., file => file.untimed
  | setMetadata .., u | delete _, u => u

namespace Memory

/-! ## Decisions -/

/-- What an operation answers, and what it makes of tables without stamps, if it does all it does at once. -/
inductive Decides (t : Tables) : (op : Operation) → Except StorageError op.Value → Change → Prop
  /-- A source that ends is kept whole, under a new id. -/
  | saved {token : Token} {source : Source} {file : Uuid} {rows : List ChunkRecord}
      (hend : source.ending = .ended) (hrows : RowsOf file (pieces source.delivered) rows) :
      Decides t (.save token source) (.ok file) (.upload file rows)
  /-- Of a source that fails nothing is kept. -/
  | unsaved {token : Token} {source : Source} {e : StorageError} (hend : source.ending.error? = some e) :
      Decides t (.save token source) (.error e) .nothing
  | opened (token : Token) (id : Uuid) :
      Decides t (.open token id) (opened token (.ok (t.file? id))) .nothing
  | annotated {id : Uuid} {data : Bytes} (hfile : t.hasFile id = true) :
      Decides t (.setMetadata id data) (.ok ()) (.annotate id data)
  | unannotated {id : Uuid} {data : Bytes} (hfile : t.hasFile id = false) :
      Decides t (.setMetadata id data) (.error .notFound) .nothing
  /-- It is no error if there is no such file. -/
  | deleted (id : Uuid) : Decides t (.delete id) (.ok ()) (.remove id)

/-- The rows of an upload are those of its file. -/
theorem Decides.owner {t : Tables} {op : Operation} {v : Except StorageError op.Value} {file : Uuid}
    {rows : List ChunkRecord} (h : Decides t op v (.upload file rows)) : ∀ d ∈ rows, d.fileId = file := by
  cases h with
  | saved hend hrows => exact hrows.owner

/-- An operation of several that was decided. -/
structure Decision where
  /-- Which of the operations it is. -/
  task : Nat
  operation : Operation
  answer : Except StorageError operation.Value
  change : Change

/-- The answer of an operation, without stamps. -/
def Decision.seen (d : Decision) : Except StorageError d.operation.Value := d.answer.map d.operation.untimed

/-- These decisions come one after another, and lead from the first tables to the second. -/
def Decided : Tables → List Decision → Tables → Prop
  | t, [], t' => t' = t
  | t, d :: ds, t' => Decides t d.operation d.seen d.change ∧ Decided (d.change.apply t) ds t'

variable {t₀ t t' : Tables} {d : Decision} {before after ds : List Decision} {file : Uuid}
  {rows : List ChunkRecord}

theorem decided_append : Decided t (before ++ after) t' ↔ ∃ t₁, Decided t before t₁ ∧ Decided t₁ after t' := by
  induction before generalizing t with
  | nil =>
    constructor
    · intro h
      exact ⟨t, rfl, h⟩
    · rintro ⟨_, rfl, h⟩
      exact h
  | cons d ds ih =>
    constructor
    · rintro ⟨hd, h⟩
      obtain ⟨t₁, hbefore, hafter⟩ := ih.mp h
      exact ⟨t₁, ⟨hd, hbefore⟩, hafter⟩
    · rintro ⟨t₁, ⟨hd, hbefore⟩, hafter⟩
      exact ⟨hd, ih.mpr ⟨t₁, hbefore, hafter⟩⟩

/-- Decisions lead to one end only. -/
theorem Decided.unique {t'' : Tables} (h : Decided t ds t') (h' : Decided t ds t'') : t' = t'' := by
  induction ds generalizing t with
  | nil => exact Eq.trans h (Eq.symm h')
  | cons d ds ih => exact ih h.2 h'.2

/-- What every decision keeps, all of them keep. -/
theorem Decided.invariant {I : Tables → Prop} (h : Decided t ds t')
    (step : ∀ d ∈ ds, ∀ t, Decides t d.operation d.seen d.change → I t → I (d.change.apply t))
    (ht : I t) : I t' := by
  induction ds generalizing t with
  | nil =>
    obtain rfl : t' = t := h
    exact ht
  | cons d ds ih =>
    obtain ⟨hd, h⟩ := h
    exact ih h (fun e he => step e (List.mem_cons_of_mem _ he)) (step d List.mem_cons_self t hd ht)

/-! ## Ids of their own -/

/-- The ids of the rows that these decisions add. -/
def broughtIds (ds : List Decision) : List Uuid := ds.flatMap (·.change.newIds)

theorem broughtIds_concat (ds : List Decision) (d : Decision) :
    broughtIds (ds ++ [d]) = broughtIds ds ++ d.change.newIds := by
  rw [broughtIds, List.flatMap_append, List.flatMap_singleton]
  rfl

/-- Every row that is added has an id of its own. -/
structure Fresh (t : Tables) (ds : List Decision) : Prop where
  nodup : (broughtIds ds).Nodup
  unused : ∀ id ∈ broughtIds ds, id ∉ t.rowIds

theorem Fresh.front (h : Fresh t (before ++ after)) : Fresh t before := by
  have hsub : (broughtIds before).Sublist (broughtIds (before ++ after)) := by
    rw [broughtIds, broughtIds, List.flatMap_append]
    exact List.sublist_append_left _ _
  exact ⟨h.nodup.sublist hsub, fun id hid => h.unused id (hsub.subset hid)⟩

theorem Fresh.change (h : Fresh t ds) (hd : d ∈ ds) : d.change.newIds.Nodup :=
  (List.nodup_flatMap.mp h.nodup).1 d hd

/-- What one decision adds is none of what a later one adds. -/
theorem Fresh.later (h : Fresh t (before ++ d :: after)) {e : Decision} (he : e ∈ after) {id : Uuid}
    (hid : id ∈ d.change.newIds) : id ∉ e.change.newIds := by
  have hapart := (List.pairwise_append.mp (List.nodup_flatMap.mp h.nodup).2).2.1
  exact (List.pairwise_cons.mp hapart).1 e he hid

/-- The rows have the ids that they had at first, and those that were added. -/
theorem rowIds_of_decided (h : Decided t ds t') {id : Uuid} (hid : id ∈ t'.rowIds) :
    id ∈ t.rowIds ∨ id ∈ broughtIds ds := by
  induction ds generalizing t with
  | nil =>
    obtain rfl : t' = t := h
    exact .inl hid
  | cons d ds ih =>
    rcases ih h.2 with hold | hnew
    · exact (rowIds_change hold).imp_right fun hnew => List.mem_flatMap.mpr ⟨d, List.mem_cons_self, hnew⟩
    · obtain ⟨e, he, hnew⟩ := List.mem_flatMap.mp hnew
      exact .inr (List.mem_flatMap.mpr ⟨e, List.mem_cons_of_mem _ he, hnew⟩)

/-- The id of a row that is there is not added again. -/
theorem Fresh.not_again (h : Fresh t (before ++ after)) (hbefore : Decided t before t') {id : Uuid}
    (hid : id ∈ t'.rowIds) {e : Decision} (he : e ∈ after) : id ∉ e.change.newIds := by
  intro hnew
  have hlater : id ∈ broughtIds after := List.mem_flatMap.mpr ⟨e, he, hnew⟩
  have hnodup : (broughtIds before ++ broughtIds after).Nodup := by
    rw [broughtIds, broughtIds, ← List.flatMap_append]
    exact h.nodup
  rcases rowIds_of_decided hbefore hid with hold | hbrought
  · refine h.unused id ?_ hold
    rw [broughtIds, List.flatMap_append]
    exact List.mem_append_right _ hlater
  · exact (List.nodup_append.mp hnodup).2.2 id hbrought id hlater rfl

/-- What is brought later is new to the tables that it is brought to. -/
theorem Fresh.rest (h : Fresh t (before ++ after)) (hbefore : Decided t before t') : Fresh t' after where
  nodup := by
    have hnodup := h.nodup
    rw [broughtIds, List.flatMap_append] at hnodup
    exact (List.nodup_append.mp hnodup).2.1
  unused id hid hrow := by
    obtain ⟨e, he, hnew⟩ := List.mem_flatMap.mp hid
    exact h.not_again hbefore hrow he hnew

/-! ## Nothing that was acknowledged is lost -/

/-- **An upload is kept**, as long as its file is not removed. -/
theorem Decided.held (h : Decided t after t') (hfresh : Fresh t₀ (before ++ d :: after))
    (hd : d.change = .upload file rows) (ht : t.Held file rows)
    (hremove : ∀ e ∈ after, e.change ≠ .remove file) : t'.Held file rows := by
  refine h.invariant (I := fun t => t.Held file rows) (fun e he t _ ht => ?_) ht
  refine ht.change (hfresh.change (by simp [he])) (fun id hid => hfresh.later he ?_) (hremove e he)
  rw [hd]
  exact hid

/-- **A removal is kept**, as long as no file of this id and no chunks of these ids are uploaded. -/
theorem Decided.gone (h : Decided t after t') (hnodup : ∀ e ∈ after, e.change.newIds.Nodup)
    (ht : t.Gone file rows) (hfile : ∀ e ∈ after, ∀ rows', e.change ≠ .upload file rows')
    (hrows : ∀ e ∈ after, ∀ id ∈ rows.map (·.id), id ∉ e.change.newIds) : t'.Gone file rows := by
  refine h.invariant (I := fun t => t.Gone file rows) (fun e he t hdecides ht => ?_) ht
  refine ht.change (hnodup e he) (hfile e he) (hrows e he) fun other rows' hupload => ?_
  rw [hupload] at hdecides
  exact hdecides.owner

/-- The metadata of a file that is there. -/
def Tables.Notes (t : Tables) (id : Uuid) (data : Bytes) : Prop :=
  ∃ f, t.file? id = some f ∧ f.metadata = some data

/-- **Metadata is kept**, as long as it is not replaced and its file is neither removed nor uploaded anew. -/
theorem Decided.notes (h : Decided t after t') (hnodup : ∀ e ∈ after, e.change.newIds.Nodup) {id : Uuid}
    {data : Bytes} (ht : t.Notes id data) (hfile : ∀ e ∈ after, ∀ rows, e.change ≠ .upload id rows)
    (hremove : ∀ e ∈ after, e.change ≠ .remove id)
    (hreplace : ∀ e ∈ after, ∀ data', e.change ≠ .annotate id data') : t'.Notes id data := by
  refine h.invariant (I := fun t => t.Notes id data) (fun e he t _ ht => ?_) ht
  obtain ⟨f, hf, hdata⟩ := ht
  refine ⟨e.change.alter id f, ?_, ?_⟩
  · rw [file?_change (hnodup e he) (hfile e he) (hremove e he), hf]
    rfl
  · cases hchange : e.change with
    | annotate other data' =>
      have hne : other ≠ id := fun heq => hreplace e he data' (by rw [hchange, heq])
      simp [Change.alter, hne, hdata]
    | _ => exact hdata

/-- What is left of what operations have acknowledged. -/
structure Acknowledged (ds : List Decision) (t : Tables) : Prop where
  /-- A file that was saved has its content until it is removed, chunk by chunk in order. -/
  saves : ∀ before after i token source file change,
    ds = before ++ ⟨i, .save token source, .ok file, change⟩ :: after →
    (∀ e ∈ after, e.change ≠ .remove file) →
    ∃ rows, change = .upload file rows ∧ RowsOf file (pieces source.delivered) rows ∧ t.Held file rows
  /-- Metadata that was set is there until it is replaced or its file is removed. -/
  annotations : ∀ before after i id data change,
    ds = before ++ ⟨i, .setMetadata id data, .ok (), change⟩ :: after →
    (∀ e ∈ after, e.change ≠ .remove id ∧ ∀ data', e.change ≠ .annotate id data') → t.Notes id data
  /-- A file that was removed is gone with all its chunks, unless it was saved only afterwards. -/
  deletes : ∀ before after i id change, ds = before ++ ⟨i, .delete id, .ok (), change⟩ :: after →
    (∀ e ∈ after, ∀ rows, e.change ≠ .upload id rows) → t.Gone id []
  /-- No two files, no two chunks and no two uploads have an id in common. -/
  apart : (broughtIds ds).Nodup

theorem hasFile_iff {id : Uuid} : t.hasFile id = true ↔ ∃ f, t.file? id = some f := by
  rw [Tables.hasFile, List.any_eq_true, Tables.file?, ← Option.isSome_iff_exists, List.find?_isSome]

theorem mem_rowIds_of_file? {id : Uuid} {f : FileRecord} (h : t.file? id = some f) : id ∈ t.rowIds := by
  rw [Tables.file?] at h
  have hid : f.id = id := by simpa using List.find?_some h
  exact List.mem_append_left _ (hid ▸ List.mem_map_of_mem (List.mem_of_find?_eq_some h))

/-- **Nothing that was acknowledged is lost**, and no two uploads share a row. -/
theorem Decided.acknowledged (h : Decided t ds t') (hfresh : Fresh t ds) : Acknowledged ds t' where
  saves := by
    rintro before after i token source file change rfl hremove
    obtain ⟨t₁, hbefore, hd, hafter⟩ := decided_append.mp h
    have hd : Decides t₁ (.save token source) (.ok file) change := hd
    cases hd with
    | @saved _ _ _ rows hend hrows =>
      refine ⟨rows, rfl, hrows, hafter.held hfresh rfl ?_ hremove⟩
      exact held_of_upload (hfresh.change (d := ⟨i, .save token source, .ok file, _⟩) (by simp)) hrows.owner
  annotations := by
    rintro before after i id data change rfl hkeep
    obtain ⟨t₁, hbefore, hd, hafter⟩ := decided_append.mp h
    have hd : Decides t₁ (.setMetadata id data) (.ok ()) change := hd
    cases hd with
    | annotated hfile =>
      obtain ⟨f, hf⟩ := hasFile_iff.mp hfile
      have hnotes : ((Change.annotate id data).apply t₁).Notes id data := by
        refine ⟨(Change.annotate id data).alter id f, ?_, ?_⟩
        · rw [file?_change (c := .annotate id data) List.nodup_nil (fun _ => nofun) nofun, hf]
          rfl
        · simp [Change.alter]
      refine hafter.notes (fun e he => hfresh.change (by simp [he])) hnotes (fun e he => ?_)
        (fun e he => (hkeep e he).1) (fun e he => (hkeep e he).2)
      -- a file that is there is not uploaded again
      exact ne_upload_of_not_mem (hfresh.not_again hbefore (mem_rowIds_of_file? hf) (by simp [he]))
  deletes := by
    rintro before after i id change rfl hupload
    obtain ⟨t₁, hbefore, hd, hafter⟩ := decided_append.mp h
    have hd : Decides t₁ (.delete id) (.ok ()) change := hd
    cases hd with
    | deleted =>
      exact hafter.gone (fun e he => hfresh.change (by simp [he])) (gone_of_remove t₁ id) hupload
        fun e he id' hid => absurd hid List.not_mem_nil
  apart := hfresh.nodup

/-! ## Files that were saved and opened -/

/-- Each decision was taken over some tables on the way. -/
theorem Decided.exists_decides (h : Decided t ds t') (hd : d ∈ ds) :
    ∃ t₁, Decides t₁ d.operation d.seen d.change := by
  obtain ⟨before, after, rfl⟩ := List.append_of_mem hd
  obtain ⟨t₁, -, hdecides, -⟩ := decided_append.mp h
  exact ⟨t₁, hdecides⟩

/-- Only a delete removes a file. -/
theorem Decides.delete_of_remove {op : Operation} {v : Except StorageError op.Value}
    (h : Decides t op v (.remove file)) : op = .delete file := by
  cases h with
  | deleted => rfl

/-- **An upload is there with all its chunks, or it is gone with all of them**, and then it was deleted. -/
theorem Decided.held_or_gone (h : Decided t after t') (hfresh : Fresh t₀ (before ++ d :: after))
    (hd : d.change = .upload file rows) (ht : t.Held file rows) :
    t'.Held file rows ∨ t'.Gone file rows ∧ ∃ e ∈ after, e.operation = .delete file := by
  by_cases hremove : ∃ e ∈ after, e.change = .remove file
  · obtain ⟨e, he, hchange⟩ := hremove
    obtain ⟨t₁, hdecides⟩ := h.exists_decides he
    rw [hchange] at hdecides
    have hnew : ∀ e ∈ after, ∀ id ∈ file :: rows.map (·.id), id ∉ e.change.newIds := fun e he id hid =>
      hfresh.later he (by rw [hd]; exact hid)
    have hkept : t'.Held file rows ∨ t'.Gone file rows := by
      refine h.invariant (I := fun t => t.Held file rows ∨ t.Gone file rows) ?_ (.inl ht)
      intro e he t hdecides ht
      have hnodup : e.change.newIds.Nodup := hfresh.change (by simp [he])
      rcases ht with ht | ht
      · by_cases hchange : e.change = .remove file
        · rw [hchange]
          exact .inr ht.remove
        · exact .inl (ht.change hnodup (hnew e he) hchange)
      · refine .inr (ht.change hnodup (ne_upload_of_not_mem (hnew e he file List.mem_cons_self))
          (fun id hid => hnew e he id (List.mem_cons_of_mem _ hid)) fun other rows' hupload => ?_)
        rw [hupload] at hdecides
        exact hdecides.owner
    exact hkept.imp_right fun hgone => ⟨hgone, e, he, hdecides.delete_of_remove⟩
  · exact .inl (h.held hfresh hd ht fun e he hchange => hremove ⟨e, he, hchange⟩)

/-- What was opened was found. -/
theorem Decides.exists_found {token : Token} {id : Uuid} {stored : StoredFile} {change : Change}
    (h : Decides t (.open token id) (.ok stored.untimed) change) :
    ∃ f, t.file? id = some f ∧ stored.reader = .new token f.size f.chunkIds := by
  generalize hv : (.ok stored.untimed : Except StorageError StoredFile) = v at h
  cases h with
  | opened =>
    cases hf : t.file? id with
    | none =>
      rw [hf] at hv
      cases hv
    | some f =>
      rw [hf] at hv
      exact ⟨f, rfl, congrArg StoredFile.reader (Except.ok.inj hv)⟩

/-- The row of an upload tells the length of its content and the order of its chunks. -/
theorem Tables.Held.row (h : t.Held file rows) {content : Bytes} (hrows : RowsOf file (pieces content) rows)
    {f : FileRecord} (hf : t.file? file = some f) :
    f.size = content.length ∧ f.chunkIds = rows.map (·.id) := by
  obtain ⟨data, hfile⟩ := h.file?
  obtain rfl := Option.some.inj (hf.symm.trans hfile)
  refine ⟨?_, rfl⟩
  show totalSize rows = content.length
  rw [totalSize_eq, hrows.flatten]

/-- **A file that was opened was saved before**, and its reader knows the chunks of the upload. -/
theorem Decided.opened (h : Decided t ds t') (hfresh : Fresh t ds) {i j : Nat} {token token' : Token}
    {source : Source} {stored : StoredFile} {change change' : Change}
    (hsave : ⟨i, .save token source, .ok file, change⟩ ∈ ds)
    (hopen : ⟨j, .open token' file, .ok stored, change'⟩ ∈ ds) :
    ∃ rows, RowsOf file (pieces source.delivered) rows ∧
      stored.reader = .new token' source.delivered.length (rows.map (·.id)) ∧
      (t'.Held file rows ∨ t'.Gone file rows ∧ ∃ e ∈ ds, e.operation = .delete file) := by
  obtain ⟨before, after, rfl⟩ := List.append_of_mem hsave
  obtain ⟨t₁, hbefore, hd, hafter⟩ := decided_append.mp h
  have hd : Decides t₁ (.save token source) (.ok file) change := hd
  cases hd with
  | @saved _ _ _ rows hend hrows =>
    have hheld := held_of_upload (t := t₁)
      (hfresh.change (d := ⟨i, .save token source, .ok file, .upload file rows⟩) (by simp)) hrows.owner
    refine ⟨rows, hrows, ?_, ?_⟩
    · rcases List.mem_append.mp hopen with hmem | hmem
      · -- before the upload there was no such file
        obtain ⟨front, back, rfl⟩ := List.append_of_mem hmem
        obtain ⟨t₂, hfront, hd, -⟩ := decided_append.mp hbefore
        obtain ⟨f, hf, -⟩ := Decides.exists_found hd
        rw [List.append_assoc] at hfresh
        exact absurd List.mem_cons_self (hfresh.not_again hfront (mem_rowIds_of_file? hf)
          (e := ⟨i, .save token source, .ok file, .upload file rows⟩) (by simp))
      · rcases List.mem_cons.mp hmem with heq | hmem
        · cases heq
        · -- after it the row is there, or it is gone
          obtain ⟨front, back, rfl⟩ := List.append_of_mem hmem
          obtain ⟨t₂, hfront, hd, -⟩ := decided_append.mp hafter
          obtain ⟨f, hf, hreader⟩ := Decides.exists_found hd
          rw [← List.cons_append, ← List.append_assoc] at hfresh
          rcases hfront.held_or_gone hfresh.front rfl hheld with hheld | ⟨hgone, -⟩
          · obtain ⟨hsize, hids⟩ := hheld.row hrows hf
            rw [hreader, hsize, hids]
          · rw [hgone.file?] at hf
            cases hf
    · refine (hafter.held_or_gone hfresh rfl hheld).imp_right fun ⟨hgone, e, he, hdelete⟩ => ?_
      exact ⟨hgone, e, by simp [he], hdelete⟩

end Memory
end ChunkVault
