/-
# ChunkVault.Proofs.Memory.Changes -- what operations make of the tables, one after another

The committed rows change in three ways: the rows of an upload are added, a file is removed with its chunks,
metadata is replaced. `Change` names them, with all that the new rows are made of. When a row was written
is left aside throughout: `untimed` rows carry one and the same stamp.

A list of changes is applied from the first to the last. As long as every upload brings ids of its own
(`Fresh`), a file that was uploaded and not removed is there with all its chunks and with the metadata that
was set last (`Held`), and of one that was removed nothing is left (`Gone`).
-/
import ChunkVault.Proofs.Memory.Ids
import ChunkVault.Proofs.Memory.RoundTrip

namespace ChunkVault

/-! ## Leaving timestamps aside -/

/-- The stamp that stands for all others. -/
def Timestamp.erased : Timestamp := .tick 0

/-- A file row without its stamps. -/
def FileRecord.untimed (f : FileRecord) : FileRecord :=
  { f with createdAt := .erased, updatedAt := .erased }

/-- The caller's view of a file without its stamps. -/
def FileInfo.untimed (info : FileInfo) : FileInfo :=
  { info with createdAt := .erased, updatedAt := .erased }

namespace Memory

/-- Tables without the stamps of their rows. -/
def Tables.untimed (t : Tables) : Tables := { t with files := t.files.map FileRecord.untimed }

/-- A write without the stamps of the row that it inserts. -/
def Write.untimed : Write → Write
  | insertFile f => insertFile f.untimed
  | w => w

theorem Tables.untimed_file? (t : Tables) (id : Uuid) :
    t.untimed.file? id = (t.file? id).map FileRecord.untimed := by
  show (t.files.map FileRecord.untimed).find? _ = (t.files.find? _).map _
  rw [List.find?_map]
  rfl

theorem Tables.untimed_hasFile (t : Tables) (id : Uuid) : t.untimed.hasFile id = t.hasFile id := by
  show (t.files.map FileRecord.untimed).any _ = t.files.any _
  rw [List.any_map]
  rfl

theorem Tables.untimed_rowIds (t : Tables) : t.untimed.rowIds = t.rowIds := by
  show (t.files.map FileRecord.untimed).map (·.id) ++ _ = t.files.map (·.id) ++ _
  rw [List.map_map]
  rfl

theorem Tables.untimed_alterFile (t : Tables) (id : Uuid) {change change' : FileRecord → FileRecord}
    (h : ∀ f, (change f).untimed = change' f.untimed) :
    (t.alterFile id change).untimed = t.untimed.alterFile id change' := by
  have hfiles : (t.files.map fun f => if f.id = id then change f else f).map FileRecord.untimed =
      (t.files.map FileRecord.untimed).map fun f => if f.id = id then change' f else f := by
    rw [List.map_map, List.map_map]
    refine List.map_congr_left fun f _ => ?_
    show FileRecord.untimed (if f.id = id then change f else f) =
      if f.id = id then change' f.untimed else f.untimed
    split
    · exact h f
    · rfl
  exact congrArg (Tables.mk · t.chunks) hfiles

theorem Tables.untimed_setMetadata (t : Tables) (now : Timestamp) (id : Uuid) (data : Option Bytes) :
    (t.setMetadata now id data).untimed = t.untimed.setMetadata .erased id data :=
  t.untimed_alterFile id fun _ => rfl

theorem Tables.untimed_filter (t : Tables) (id : Uuid) :
    (t.files.filter (·.id ≠ id)).map FileRecord.untimed = (t.files.map FileRecord.untimed).filter (·.id ≠ id) := by
  rw [List.filter_map]
  rfl

theorem Tables.untimed_deleteFile (t : Tables) (id : Uuid) :
    (t.deleteFile id).untimed = t.untimed.deleteFile id := by
  show Tables.mk ((t.files.filter _).map _) _ = Tables.mk _ _
  rw [t.untimed_filter id]
  rfl

/-- **Writes do to rows without stamps what they do to rows with stamps.** -/
theorem untimed_apply (now : Timestamp) (t : Tables) (w : Write) :
    (w.apply now t).untimed = w.untimed.apply .erased t.untimed := by
  cases w with
  | insertFile f =>
    show Tables.mk ((t.files.filter _ ++ [f]).map _) _ = Tables.mk _ _
    rw [List.map_append, t.untimed_filter f.id]
    rfl
  | insertChunk c => rfl
  | finishFile id size ids => exact t.untimed_alterFile id fun _ => rfl
  | deleteChunks id => rfl
  | deleteFile id => exact t.untimed_deleteFile id

theorem untimed_apply_all (now : Timestamp) (ws : List Write) (t : Tables) :
    (ws.foldl (Write.apply now) t).untimed = (ws.map Write.untimed).foldl (Write.apply .erased) t.untimed := by
  induction ws generalizing t with
  | nil => rfl
  | cons w ws ih =>
    rw [List.foldl_cons, ih, untimed_apply]
    rfl

theorem untimed_uploadWrites (made : Timestamp) (file : Uuid) (rows : List ChunkRecord) :
    (uploadWrites made file rows).map Write.untimed = uploadWrites .erased file rows := by
  have hrows : (rows.map Write.insertChunk).map Write.untimed = rows.map Write.insertChunk := by
    rw [List.map_map]
    rfl
  rw [uploadWrites, List.map_cons, List.map_append, hrows]
  rfl

/-! ## Changes -/

/-- What an operation makes of the tables. -/
inductive Change where
  | nothing
  | upload (file : Uuid) (rows : List ChunkRecord)
  | remove (id : Uuid)
  | annotate (id : Uuid) (data : Bytes)
deriving DecidableEq

namespace Change

/-- Applies a change to tables without stamps. -/
def apply (t : Tables) : Change → Tables
  | nothing => t
  | upload file rows => (uploadWrites .erased file rows).foldl (Write.apply .erased) t
  | remove id => t.deleteFile id
  | annotate id data => t.setMetadata .erased id (some data)

/-- The ids of the rows that a change adds. -/
def newIds : Change → List Uuid
  | upload file rows => file :: rows.map (·.id)
  | nothing | remove _ | annotate .. => []

/-- What a change makes of the row of a file that was there before, and stays. -/
def alter (id : Uuid) (f : FileRecord) : Change → FileRecord
  | annotate id' data => if id' = id then { f with metadata := some data, updatedAt := .erased } else f
  | nothing | upload .. | remove _ => f

end Change

variable {t : Tables} {c : Change} {file id : Uuid} {rows : List ChunkRecord}

theorem find?_filter_of_imp {α : Type} {p q : α → Bool} (h : ∀ a, q a = true → p a = true) (l : List α) :
    (l.filter p).find? q = l.find? q := by
  have hp : (fun a => decide (p a = true ∧ q a = true)) = q := by
    funext a
    cases hq : q a with
    | true => simp [h a hq]
    | false => simp
  rw [List.find?_filter, hp]

theorem find?_filter_of_some {α : Type} {p q : α → Bool} {l : List α} {a : α} (h : l.find? q = some a)
    (ha : p a = true) : (l.filter p).find? q = some a := by
  obtain ⟨hq, front, rest, rfl, hfront⟩ := List.find?_eq_some_iff_append.mp h
  rw [List.filter_append, List.filter_cons_of_pos ha]
  refine List.find?_eq_some_iff_append.mpr ⟨hq, front.filter p, rest.filter p, rfl, fun b hb => ?_⟩
  exact hfront b (List.mem_filter.mp hb).1

/-! ## What a change does to single rows -/

/-- A change adds the ids that are new in it, and no others. -/
theorem rowIds_change (h : id ∈ (c.apply t).rowIds) : id ∈ t.rowIds ∨ id ∈ c.newIds := by
  cases c with
  | nothing => exact .inl h
  | upload file rows =>
    refine (rowIds_apply_all h).imp_right fun hid => ?_
    rwa [newIds_uploadWrites] at hid
  | remove gone =>
    have hfront := @rowIds_apply_all .erased [.deleteFile gone] t id h
    exact .inl (hfront.resolve_right nofun)
  | annotate other data =>
    have hsame : (t.setMetadata .erased other (some data)).rowIds = t.rowIds :=
      t.alterFile_rowIds other fun _ => rfl
    exact .inl (hsame ▸ h)

/-- An upload of rows with ids of their own replaces what has their ids. -/
theorem apply_upload (hnodup : (Change.upload file rows).newIds.Nodup) :
    (Change.upload file rows).apply t =
      ⟨(t.without file (rows.map (·.id))).files ++ [uploadedFile .erased .erased file rows],
        (t.without file (rows.map (·.id))).chunks ++ rows⟩ :=
  apply_uploadWrites (List.nodup_cons.mp hnodup).2

theorem alterFile_file? (t : Tables) (other id : Uuid) {change : FileRecord → FileRecord}
    (hchange : ∀ f, (change f).id = f.id) :
    (t.alterFile other change).file? id =
      (t.file? id).map fun f => if other = id then change f else f := by
  have hp : ((fun f : FileRecord => decide (f.id = id)) ∘ fun f => if f.id = other then change f else f) =
      fun f => decide (f.id = id) := by
    funext f
    show decide ((if f.id = other then change f else f).id = id) = decide (f.id = id)
    split
    · rw [hchange]
    · rfl
  show (t.files.map fun f => if f.id = other then change f else f).find? _ = (t.files.find? _).map _
  rw [List.find?_map, hp]
  -- the row that is found has the id that was looked for
  cases hf : t.files.find? fun f => f.id = id with
  | none => rfl
  | some f =>
    have hid : f.id = id := by simpa using List.find?_some hf
    show some (if f.id = other then change f else f) = some (if other = id then change f else f)
    rw [hid]
    by_cases heq : other = id
    · rw [if_pos heq.symm, if_pos heq]
    · rw [if_neg fun h => heq h.symm, if_neg heq]

theorem ne_upload_of_not_mem (h : id ∉ c.newIds) (rows : List ChunkRecord) : c ≠ .upload id rows := by
  rintro rfl
  exact h List.mem_cons_self

/-- **The row of a file after a change** that neither brings nor removes it. -/
theorem file?_change (hnodup : c.newIds.Nodup) (hupload : ∀ rows, c ≠ .upload id rows)
    (hremove : c ≠ .remove id) :
    (c.apply t).file? id = (t.file? id).map fun f => c.alter id f := by
  cases c with
  | nothing => exact Option.map_id'.symm
  | upload file rows =>
    have hne : file ≠ id := fun heq => hupload rows (heq ▸ rfl)
    have hnone : [uploadedFile .erased .erased file rows].find? (·.id = id) = none :=
      List.find?_cons_of_neg (ne_true_of_eq_false (decide_eq_false hne))
    rw [apply_upload hnodup]
    show (t.files.filter (·.id ≠ file) ++ [uploadedFile .erased .erased file rows]).find? _ = _
    rw [List.find?_append, hnone, Option.or_none, find?_filter_of_imp]
    · exact Option.map_id'.symm
    · intro f hf
      have hid : f.id = id := of_decide_eq_true hf
      exact decide_eq_true (hid ▸ hne.symm)
  | remove gone =>
    have hne : gone ≠ id := fun heq => hremove (heq ▸ rfl)
    refine Eq.trans ?_ Option.map_id'.symm
    refine find?_filter_of_imp (fun f hf => ?_) t.files
    have hid : f.id = id := of_decide_eq_true hf
    exact decide_eq_true (hid ▸ hne.symm)
  | annotate other data => exact alterFile_file? t other id fun _ => rfl

/-- A chunk after a change was there before, or is one of the rows that the change brings. -/
theorem chunks_change (hnodup : c.newIds.Nodup) {d : ChunkRecord} (hd : d ∈ (c.apply t).chunks) :
    d ∈ t.chunks ∨ ∃ file rows, c = .upload file rows ∧ d ∈ rows := by
  cases c with
  | nothing => exact .inl hd
  | upload file rows =>
    rw [apply_upload hnodup] at hd
    rcases List.mem_append.mp hd with hd | hd
    · exact .inl (List.mem_filter.mp hd).1
    · exact .inr ⟨file, rows, rfl, hd⟩
  | remove gone => exact .inl (List.mem_filter.mp hd).1
  | annotate other data => exact .inl hd

/-- **A chunk stays** until its file is removed. -/
theorem chunk?_change (hnodup : c.newIds.Nodup) (hnew : id ∉ c.newIds) {d : ChunkRecord}
    (h : t.chunk? id = some d) (hremove : c ≠ .remove d.fileId) : (c.apply t).chunk? id = some d := by
  cases c with
  | nothing => exact h
  | upload file rows =>
    have hrows : id ∉ rows.map (·.id) := fun hmem => hnew (List.mem_cons_of_mem _ hmem)
    rw [apply_upload hnodup]
    show (t.chunks.filter (·.id ∉ rows.map (·.id)) ++ rows).find? _ = _
    rw [List.find?_append, find?_filter_of_imp, show t.chunks.find? (·.id = id) = some d from h]
    · rfl
    · intro e he
      have hid : e.id = id := of_decide_eq_true he
      exact decide_eq_true (hid ▸ hrows)
  | remove gone =>
    refine find?_filter_of_some h (decide_eq_true fun heq => hremove ?_)
    rw [heq]
  | annotate other data => exact h

/-! ## Files that are there, and files that are gone -/

/-- The tables hold this file and these chunks of it, as an upload has left them; only its metadata may
have changed. No other file owns a chunk of these ids. -/
structure Tables.Held (t : Tables) (file : Uuid) (rows : List ChunkRecord) : Prop where
  file? : ∃ data, t.file? file = some { uploadedFile .erased .erased file rows with metadata := data }
  chunk? : ∀ d ∈ rows, t.chunk? d.id = some d
  owner : ∀ d ∈ t.chunks, d.id ∈ rows.map (·.id) → d.fileId = file

/-- The tables hold nothing of this file, and none of these chunks. -/
structure Tables.Gone (t : Tables) (file : Uuid) (rows : List ChunkRecord) : Prop where
  file? : t.file? file = none
  chunks : ∀ d ∈ t.chunks, d.fileId ≠ file ∧ d.id ∉ rows.map (·.id)

/-- **What was uploaded is there.** -/
theorem held_of_upload (hnodup : (Change.upload file rows).newIds.Nodup)
    (howner : ∀ d ∈ rows, d.fileId = file) : ((Change.upload file rows).apply t).Held file rows := by
  have hkeeps := @Tables.keeps_of_added t (uploadedFile .erased .erased file rows) rows
    (List.nodup_cons.mp hnodup).2
  rw [apply_upload hnodup]
  refine ⟨⟨none, hkeeps.file?⟩, hkeeps.chunk?, fun d hd hid => ?_⟩
  rcases List.mem_append.mp hd with hd | hd
  · exact absurd hid (of_decide_eq_true (List.mem_filter.mp hd).2)
  · exact howner d hd

theorem Tables.Held.mem (h : t.Held file rows) {d : ChunkRecord} (hd : d ∈ rows) : d.fileId = file :=
  h.owner d (List.mem_of_find?_eq_some (h.chunk? d hd)) (List.mem_map_of_mem hd)

/-- **What is there stays there** until the file is removed, as long as no id is used again. -/
theorem Tables.Held.change (h : t.Held file rows) (hnodup : c.newIds.Nodup)
    (hnew : ∀ id ∈ file :: rows.map (·.id), id ∉ c.newIds) (hremove : c ≠ .remove file) :
    (c.apply t).Held file rows where
  file? := by
    obtain ⟨data, hfile⟩ := h.file?
    rw [file?_change hnodup (ne_upload_of_not_mem (hnew file List.mem_cons_self)) hremove, hfile]
    cases c with
    | annotate other text =>
      by_cases heq : other = file
      · exact ⟨some text, congrArg some (if_pos heq)⟩
      · exact ⟨data, congrArg some (if_neg heq)⟩
    | _ => exact ⟨data, rfl⟩
  chunk? d hd := by
    refine chunk?_change hnodup (hnew d.id (List.mem_cons_of_mem _ (List.mem_map_of_mem hd))) (h.chunk? d hd) ?_
    rw [h.mem hd]
    exact hremove
  owner d hd hid := by
    rcases chunks_change hnodup hd with hold | ⟨other, rows', rfl, hrow⟩
    · exact h.owner d hold hid
    · exact absurd (List.mem_cons_of_mem _ (List.mem_map_of_mem hrow)) (hnew d.id (List.mem_cons_of_mem _ hid))

/-- Of a file that is removed nothing is left. -/
theorem gone_of_remove (t : Tables) (file : Uuid) : (t.deleteFile file).Gone file [] where
  file? := by
    refine List.find?_eq_none.mpr fun f hf => ?_
    simpa using (List.mem_filter.mp hf).2
  chunks d hd := ⟨of_decide_eq_true (List.mem_filter.mp hd).2, List.not_mem_nil⟩

/-- **What is removed is gone**, with all its chunks. -/
theorem Tables.Held.remove (h : t.Held file rows) : (t.deleteFile file).Gone file rows where
  file? := (gone_of_remove t file).file?
  chunks d hd := by
    have hother : d.fileId ≠ file := ((gone_of_remove t file).chunks d hd).1
    exact ⟨hother, fun hid => hother (h.owner d (List.mem_filter.mp hd).1 hid)⟩

/-- **What is gone does not come back**, as long as no id is used again. -/
theorem Tables.Gone.change (h : t.Gone file rows) (hnodup : c.newIds.Nodup)
    (hfile : ∀ rows', c ≠ .upload file rows') (hrows : ∀ id ∈ rows.map (·.id), id ∉ c.newIds)
    (howner : ∀ other rows', c = .upload other rows' → ∀ d ∈ rows', d.fileId = other) :
    (c.apply t).Gone file rows where
  file? := by
    by_cases hremove : c = .remove file
    · rw [hremove]
      exact (gone_of_remove t file).file?
    · rw [file?_change hnodup hfile hremove, h.file?]
      rfl
  chunks d hd := by
    rcases chunks_change hnodup hd with hold | ⟨other, rows', rfl, hrow⟩
    · exact h.chunks d hold
    · refine ⟨fun heq => hfile rows' ?_, fun hid => hrows d.id hid ?_⟩
      · rw [← heq, howner other rows' rfl d hrow]
      · exact List.mem_cons_of_mem _ (List.mem_map_of_mem hrow)

theorem Tables.Gone.chunk? (h : t.Gone file rows) {d : ChunkRecord} (hd : d ∈ rows) : t.chunk? d.id = none := by
  refine List.find?_eq_none.mpr fun e he heq => (h.chunks e he).2 ?_
  rw [of_decide_eq_true heq]
  exact List.mem_map_of_mem hd

end Memory
end ChunkVault
