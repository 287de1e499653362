/-
# ChunkVault.Proofs.Memory.Vault -- the tables as a map from ids to contents

To those who use it a store is a map: an id stands for some content and some metadata, or for nothing. How
the content is cut into chunks, and in which rows the chunks are kept, does not show. `Tables.vault` reads the
map off the tables, and `Vault.Step` says what each operation answers and does there.

The two fit together (`Decides.vaultStep`): as long as every file is whole and every upload brings new ids,
each change of the tables is a change of one entry of the map, and each operation is a step of it.
-/
import Mathlib.Logic.Function.Basic
import ChunkVault.Proofs.Memory.Decisions
import ChunkVault.Proofs.Memory.Integrity

namespace ChunkVault.Memory

/-! ## The map -/

/-- What an id stands for. -/
structure Entry where
  content : Bytes
  metadata : Option Bytes
deriving DecidableEq

/-- A map from ids to entries. -/
abbrev Vault := Uuid → Option Entry

/-- The bytes of the chunks of a file, in the order in which it lists them. -/
def Tables.content (t : Tables) (f : FileRecord) : Bytes := (f.chunkIds.filterMap t.chunk?).flatMap (·.bytes)

/-- The map that the tables are. -/
def Tables.vault (t : Tables) : Vault := fun id => (t.file? id).map fun f => ⟨t.content f, f.metadata⟩

/-- What each of the operations answers, and makes of the map. -/
inductive Vault.Step (m : Vault) : (op : Operation) → Except StorageError op.Value → Vault → Prop
  /-- What a source delivers is kept under an id that stood for nothing. -/
  | saved {token : Token} {source : Source} {id : Uuid} (hend : source.ending = .ended) (hnew : m id = none) :
      Step m (.save token source) (.ok id) (Function.update m id (some ⟨source.delivered, none⟩))
  /-- Of a source that fails nothing is kept. -/
  | unsaved {token : Token} {source : Source} {e : StorageError} (hend : source.ending.error? = some e) :
      Step m (.save token source) (.error e) m
  | opened {token : Token} {id : Uuid} {entry : Entry} {stored : StoredFile} (hentry : m id = some entry)
      (hid : stored.info.id = id) (hsize : stored.info.size = entry.content.length)
      (hdata : stored.info.metadata = entry.metadata) : Step m (.open token id) (.ok stored) m
  | unopened {token : Token} {id : Uuid} (hnone : m id = none) : Step m (.open token id) (.error .notFound) m
  | annotated {id : Uuid} {data : Bytes} {entry : Entry} (hentry : m id = some entry) :
      Step m (.setMetadata id data) (.ok ())
        (Function.update m id (some { entry with metadata := some data }))
  | unannotated {id : Uuid} {data : Bytes} (hnone : m id = none) :
      Step m (.setMetadata id data) (.error .notFound) m
  /-- It is no error if there is no such entry. -/
  | deleted (id : Uuid) : Step m (.delete id) (.ok ()) (Function.update m id none)

/-- What a change of the tables makes of the map. -/
def Change.onVault (m : Vault) : Change → Vault
  | nothing => m
  | upload file rows => Function.update m file (some ⟨rows.flatMap (·.bytes), none⟩)
  | remove id => Function.update m id none
  | annotate id data => Function.update m id ((m id).map fun entry => { entry with metadata := some data })

/-! ## Contents -/

section Contents

variable {t : Tables} {c : Change} {f : FileRecord} {id : Uuid} {rows : List ChunkRecord}

theorem content_eq_flatMap (hids : f.chunkIds = rows.map (·.id)) (hrows : ∀ d ∈ rows, t.chunk? d.id = some d) :
    t.content f = rows.flatMap (·.bytes) := by
  have hfound : (rows.map (·.id)).filterMap t.chunk? = rows := by
    rw [List.filterMap_map]
    exact (List.filterMap_congr hrows).trans (List.filterMap_some)
  rw [Tables.content, hids, hfound]

theorem file?_some (h : t.file? id = some f) : f ∈ t.files ∧ f.id = id :=
  ⟨List.mem_of_find?_eq_some h, by simpa using List.find?_some h⟩

theorem Tables.Intact.chunk? (ht : t.Intact) {d : ChunkRecord} (hd : d ∈ t.chunks) : t.chunk? d.id = some d :=
  find?_of_nodup ht.chunks hd

/-- The size of a whole file is the length of its content. -/
theorem Tables.Intact.size_eq (ht : t.Intact) (hf : f ∈ t.files) : f.size = (t.content f).length := by
  obtain ⟨rows, hlists⟩ := ht.lists f hf
  rw [content_eq_flatMap hlists.chunkIds fun d hd => ht.chunk? (hlists.stored d hd), hlists.size, totalSize_eq,
    List.flatMap_def]

/-- **A change leaves the content of every other file alone**, if it brings no id that is in use. -/
theorem content_change (ht : t.Intact) (hnodup : c.newIds.Nodup) (hunused : ∀ i ∈ c.newIds, i ∉ t.rowIds)
    (hf : f ∈ t.files) (hremove : c ≠ .remove f.id) {g : FileRecord} (hg : g.chunkIds = f.chunkIds) :
    (c.apply t).content g = t.content f := by
  obtain ⟨rows, hlists⟩ := ht.lists f hf
  have hstays : ∀ d ∈ rows, (c.apply t).chunk? d.id = some d := by
    intro d hd
    have hstored := hlists.stored d hd
    refine chunk?_change hnodup (fun hnew => hunused d.id hnew ?_) (ht.chunk? hstored) ?_
    · exact List.mem_append_right _ (List.mem_map_of_mem hstored)
    · rw [hlists.owner d hd]
      exact hremove
  rw [content_eq_flatMap (hg.trans hlists.chunkIds) hstays,
    content_eq_flatMap hlists.chunkIds fun d hd => ht.chunk? (hlists.stored d hd)]

theorem Change.alter_chunkIds (id : Uuid) (f : FileRecord) (c : Change) :
    (c.alter id f).chunkIds = f.chunkIds := by
  cases c with
  | annotate other data =>
    show (if other = id then { f with metadata := some data, updatedAt := .erased } else f).chunkIds = _
    split <;> rfl
  | _ => rfl

/-- The entry of a file that a change neither brings nor removes. -/
theorem vault_change_of_ne (ht : t.Intact) (hnodup : c.newIds.Nodup)
    (hunused : ∀ i ∈ c.newIds, i ∉ t.rowIds) (hupload : ∀ rows, c ≠ .upload id rows) (hremove : c ≠ .remove id) :
    (c.apply t).vault id = (t.file? id).map fun f => ⟨t.content f, (c.alter id f).metadata⟩ := by
  rw [Tables.vault, file?_change hnodup hupload hremove]
  cases hfile : t.file? id with
  | none => rfl
  | some f =>
    obtain ⟨hf, rfl⟩ := file?_some hfile
    have hcontent := content_change ht hnodup hunused hf hremove (c.alter_chunkIds f.id f)
    exact congrArg (fun bytes => some (Entry.mk bytes _)) hcontent

/-- **A change of the tables is a change of one entry.** -/
theorem vault_apply (ht : t.Intact) (hnodup : c.newIds.Nodup) (hunused : ∀ i ∈ c.newIds, i ∉ t.rowIds) :
    (c.apply t).vault = c.onVault t.vault := by
  funext id
  by_cases hupload : ∃ rows, c = .upload id rows
  · -- the entry is the new one
    obtain ⟨rows, rfl⟩ := hupload
    have hkeeps := @Tables.keeps_of_added t (uploadedFile .erased .erased id rows) rows
      (List.nodup_cons.mp hnodup).2
    rw [Change.onVault, Function.update_self, apply_upload hnodup]
    refine (congrArg (Option.map _) hkeeps.file?).trans ?_
    exact congrArg (fun bytes => some (Entry.mk bytes none)) (content_eq_flatMap rfl hkeeps.chunk?)
  · by_cases hremove : c = .remove id
    · subst hremove
      rw [Change.onVault, Function.update_self]
      exact congrArg (Option.map _) (gone_of_remove t id).file?
    · rw [vault_change_of_ne ht hnodup hunused (fun rows heq => hupload ⟨rows, heq⟩) hremove]
      cases c with
      | nothing => rfl
      | upload file rows =>
        have hne : id ≠ file := fun heq => hupload ⟨rows, heq ▸ rfl⟩
        rw [Change.onVault, Function.update_of_ne hne]
        rfl
      | remove gone =>
        have hne : id ≠ gone := fun heq => hremove (heq ▸ rfl)
        rw [Change.onVault, Function.update_of_ne hne]
        rfl
      | annotate other data =>
        rw [Change.onVault]
        by_cases heq : id = other
        · subst heq
          rw [Function.update_self, Tables.vault, Option.map_map]
          refine Option.map_congr fun f _ => ?_
          simp [Change.alter]
        · rw [Function.update_of_ne heq]
          refine Option.map_congr fun f _ => ?_
          simp [Change.alter, Ne.symm heq]

end Contents

/-! ## Steps -/

section Steps

variable {t : Tables} {c : Change}

theorem vault_eq_none {id : Uuid} : t.vault id = none ↔ t.file? id = none := by
  rw [Tables.vault, Option.map_eq_none_iff]

/-- An id that no row has stands for nothing. -/
theorem vault_of_unused {id : Uuid} (h : id ∉ t.rowIds) : t.vault id = none := by
  rw [vault_eq_none]
  cases hfile : t.file? id with
  | none => rfl
  | some f => exact absurd (mem_rowIds_of_file? hfile) h

/-- Opening a file answers with its row, and changes nothing. -/
theorem Decides.eq_opened {token : Token} {id : Uuid} {v : Except StorageError StoredFile}
    (h : Decides t (.open token id) v c) :
    v = ChunkVault.opened token (.ok (t.file? id)) ∧ c = .nothing := by
  cases h with
  | opened => exact ⟨rfl, rfl⟩

/-- **Opening a file answers with its entry.** -/
theorem Decides.vaultStep_open {token : Token} {id : Uuid} {r : Except StorageError StoredFile}
    (h : Decides t (.open token id) (r.map StoredFile.untimed) c) (ht : t.Intact) :
    t.vault.Step (.open token id) r (c.onVault t.vault) := by
  obtain ⟨hr, rfl⟩ := h.eq_opened
  cases hfile : t.file? id with
  | none =>
    rw [hfile] at hr
    cases r with
    | ok stored => cases hr
    | error e =>
      obtain rfl : e = .notFound := Except.error.inj hr
      exact .unopened (vault_eq_none.mpr hfile)
  | some f =>
    rw [hfile] at hr
    cases r with
    | error e => cases hr
    | ok stored =>
      -- stamps aside, what is answered is the row
      have hinfo : stored.info.untimed = f.info := congrArg StoredFile.info (Except.ok.inj hr)
      obtain ⟨hf, hid⟩ := file?_some hfile
      have hsize : stored.info.size = f.size := congrArg FileInfo.size hinfo
      have hentry : t.vault id = some ⟨t.content f, f.metadata⟩ := congrArg (Option.map _) hfile
      exact .opened hentry ((congrArg FileInfo.id hinfo).trans hid) (hsize.trans (ht.size_eq hf))
        (congrArg FileInfo.metadata hinfo)

/-- **What an operation decides is a step of the map.** -/
theorem Decides.vaultStep {op : Operation} {r : Except StorageError op.Value}
    (h : Decides t op (r.map op.untimed) c) (ht : t.Intact) (hunused : ∀ i ∈ c.newIds, i ∉ t.rowIds) :
    t.vault.Step op r (c.onVault t.vault) := by
  cases op with
  | «open» token id => exact h.vaultStep_open ht
  | save token source =>
    cases r with
    | ok file =>
      cases h with
      | @saved _ _ _ rows hend hrows =>
        have hnew := vault_of_unused (hunused file List.mem_cons_self)
        have hcontent : rows.flatMap (·.bytes) = source.delivered := by
          rw [List.flatMap_def, hrows.flatten]
        rw [Change.onVault, hcontent]
        exact .saved hend hnew
    | error e =>
      cases h with
      | unsaved hend => exact .unsaved hend
  | setMetadata id data =>
    cases r with
    | ok u =>
      cases h with
      | annotated hfile =>
        obtain ⟨f, hf⟩ := hasFile_iff.mp hfile
        have hentry : t.vault id = some ⟨t.content f, f.metadata⟩ := congrArg (Option.map _) hf
        rw [Change.onVault, hentry]
        exact .annotated hentry
    | error e =>
      obtain ⟨rfl, rfl, hfile⟩ : e = .notFound ∧ c = .nothing ∧ t.hasFile id = false := by
        cases h with
        | unannotated hfile => exact ⟨rfl, rfl, hfile⟩
      refine .unannotated (vault_eq_none.mpr ?_)
      rw [Option.eq_none_iff_forall_ne_some]
      exact fun f hf => absurd (hasFile_iff.mpr ⟨f, hf⟩) (ne_true_of_eq_false hfile)
  | delete id =>
    obtain ⟨rfl, rfl⟩ : r = .ok () ∧ c = .remove id := by
      cases r with
      | ok u =>
        cases h with
        | deleted => exact ⟨rfl, rfl⟩
      | error e => cases h
    exact .deleted id

/-- **Every decision keeps the files whole**, if it brings new ids. -/
theorem Decides.intact {op : Operation} {v : Except StorageError op.Value} (h : Decides t op v c)
    (ht : t.Intact) (hnodup : c.newIds.Nodup) (hunused : ∀ i ∈ c.newIds, i ∉ t.rowIds) :
    (c.apply t).Intact := by
  cases h with
  | saved hend hrows =>
    rw [apply_upload hnodup, Tables.without_of_unused (Tables.unused_of_rowIds hunused)]
    exact ht.upload hrows hnodup (Tables.unused_of_rowIds hunused)
  | deleted id => exact ht.deleteFile id
  | annotated hfile => exact ht.setMetadata _ _ _
  | unsaved hend => exact ht
  | opened => exact ht
  | unannotated hfile => exact ht

/-- An entry that is there after a change has the content that it had before, unless it was brought. -/
theorem content_onVault {m : Vault} {id : Uuid} {entry : Entry} (hnew : id ∉ c.newIds)
    (h : c.onVault m id = some entry) : ∃ old, m id = some old ∧ old.content = entry.content := by
  cases c with
  | nothing => exact ⟨entry, h, rfl⟩
  | upload file rows =>
    have hne : id ≠ file := fun heq => hnew (heq ▸ List.mem_cons_self)
    rw [Change.onVault, Function.update_of_ne hne] at h
    exact ⟨entry, h, rfl⟩
  | remove gone =>
    rw [Change.onVault] at h
    by_cases heq : id = gone
    · rw [heq, Function.update_self] at h
      cases h
    · rw [Function.update_of_ne heq] at h
      exact ⟨entry, h, rfl⟩
  | annotate other data =>
    rw [Change.onVault] at h
    by_cases heq : id = other
    · rw [← heq, Function.update_self, Option.map_eq_some_iff] at h
      obtain ⟨old, hold, rfl⟩ := h
      exact ⟨old, hold, rfl⟩
    · rw [Function.update_of_ne heq] at h
      exact ⟨entry, h, rfl⟩

variable {t' : Tables} {ds : List Decision}

/-- The first of several decisions brings ids that are new, and leaves the others with theirs. -/
theorem Fresh.first {d : Decision} (h : Fresh t (d :: ds)) (hd : Decides t d.operation d.seen d.change) :
    d.change.newIds.Nodup ∧ (∀ i ∈ d.change.newIds, i ∉ t.rowIds) ∧ Fresh (d.change.apply t) ds :=
  ⟨h.change List.mem_cons_self,
    fun _ hi => h.unused _ (List.mem_flatMap.mpr ⟨d, List.mem_cons_self, hi⟩),
    @Fresh.rest t _ [d] ds h ⟨hd, rfl⟩⟩

/-- **Files stay whole**, whatever is decided about them. -/
theorem Decided.intact (h : Decided t ds t') (hfresh : Fresh t ds) (ht : t.Intact) : t'.Intact := by
  induction ds generalizing t with
  | nil =>
    obtain rfl : t' = t := h
    exact ht
  | cons d ds ih =>
    obtain ⟨hd, h⟩ := h
    obtain ⟨hnodup, hunused, hrest⟩ := hfresh.first hd
    exact ih h hrest (hd.intact ht hnodup hunused)

/-- **Content is never altered**: what is there under an id that is not brought anew has the content that was
there before. -/
theorem Decided.content_kept (h : Decided t ds t') (hfresh : Fresh t ds) (ht : t.Intact) {id : Uuid}
    (hid : id ∉ broughtIds ds) {entry : Entry} (hentry : t'.vault id = some entry) :
    ∃ old, t.vault id = some old ∧ old.content = entry.content := by
  induction ds generalizing t with
  | nil =>
    obtain rfl : t' = t := h
    exact ⟨entry, hentry, rfl⟩
  | cons d ds ih =>
    obtain ⟨hd, h⟩ := h
    obtain ⟨hnodup, hunused, hrest⟩ := hfresh.first hd
    rw [broughtIds, List.flatMap_cons, List.mem_append, not_or] at hid
    obtain ⟨mid, hmid, hcontent⟩ := ih h hrest (hd.intact ht hnodup hunused) hid.2
    rw [vault_apply ht hnodup hunused] at hmid
    obtain ⟨old, hold, hsame⟩ := content_onVault hid.1 hmid
    exact ⟨old, hold, hsame.trans hcontent⟩

end Steps
end ChunkVault.Memory
