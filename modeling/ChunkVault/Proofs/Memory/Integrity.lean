/-
# ChunkVault.Proofs.Memory.Integrity -- tables in which every file is whole

A reader computes with the layout of a file and never checks it. `Tables.Intact` says what it relies on:
a file lists chunks of its own, whole ones but for the last, that add up to its size; and no chunk is
without a file that lists it. The three ways in which committed rows change keep it: the rows of an upload
are added, a file is deleted with its chunks, metadata is replaced.
-/
import ChunkVault.Proofs.Memory.Publication

namespace ChunkVault.Memory

namespace Tables

/-- The chunks that a file lists are these rows: stored and its own, pairwise different, laid out as the
pieces of content are, and as long together as the file. -/
structure Lists (t : Tables) (f : FileRecord) (rows : List ChunkRecord) : Prop where
  chunkIds : f.chunkIds = rows.map (·.id)
  nodup : f.chunkIds.Nodup
  stored : ∀ c ∈ rows, c ∈ t.chunks
  owner : ∀ c ∈ rows, c.fileId = f.id
  laidOut : LaidOut (rows.map (·.bytes.length))
  size : f.size = totalSize rows

/-- Every file lists chunks that make it up, every chunk is listed by its file, and no id is in use
twice. -/
structure Intact (t : Tables) : Prop where
  files : (t.files.map (·.id)).Nodup
  chunks : (t.chunks.map (·.id)).Nodup
  lists : ∀ f ∈ t.files, ∃ rows, t.Lists f rows
  listed : ∀ c ∈ t.chunks, ∃ f ∈ t.files, f.id = c.fileId ∧ c.id ∈ f.chunkIds

theorem totalSize_nonneg (rows : List ChunkRecord) : 0 ≤ totalSize rows := by
  rw [totalSize_eq]
  exact Int.natCast_nonneg _

theorem Intact.empty : Tables.empty.Intact :=
  ⟨List.nodup_nil, List.nodup_nil, fun _ hf => absurd hf List.not_mem_nil,
    fun _ hc => absurd hc List.not_mem_nil⟩

/-- No two files list the same chunk, since no two files own it. -/
theorem Intact.existsUnique_listing {t : Tables} (h : t.Intact) {c : ChunkRecord} (hc : c ∈ t.chunks) :
    ∃! f, f ∈ t.files ∧ c.id ∈ f.chunkIds := by
  obtain ⟨f, hf, howner, hmem⟩ := h.listed c hc
  refine ⟨f, ⟨hf, hmem⟩, ?_⟩
  rintro g ⟨hg, hgmem⟩
  obtain ⟨rows, hrows⟩ := h.lists g hg
  rw [hrows.chunkIds] at hgmem
  obtain ⟨d, hd, hid⟩ := List.mem_map.mp hgmem
  -- the chunk of that id is this one, and its owner is the only file of its id
  obtain rfl : d = c := List.inj_on_of_nodup_map h.chunks (hrows.stored d hd) hc hid
  exact List.inj_on_of_nodup_map h.files hg hf ((hrows.owner d hd).symm.trans howner.symm)

/-! ## Uploads -/

/-- A file stays whole as long as its chunks are stored. -/
theorem Lists.of_stored {t t' : Tables} {f : FileRecord} {rows : List ChunkRecord} (h : t.Lists f rows)
    (hstored : ∀ c ∈ rows, c ∈ t'.chunks) : t'.Lists f rows :=
  { h with stored := hstored }

/-- **The rows of an upload keep the tables intact**, if their ids are new. -/
theorem Intact.upload {t : Tables} (h : t.Intact) {made finished : Timestamp} {file : Uuid}
    {content : Bytes} {rows : List ChunkRecord} (hrows : RowsOf file (pieces content) rows)
    (hnodup : (file :: rows.map (·.id)).Nodup) (hunused : t.Unused (file :: rows.map (·.id))) :
    Intact ⟨t.files ++ [uploadedFile made finished file rows], t.chunks ++ rows⟩ := by
  have hids := (List.nodup_cons.mp hnodup).2
  refine ⟨?_, ?_, ?_, ?_⟩
  · show ((t.files ++ [uploadedFile made finished file rows]).map (·.id)).Nodup
    rw [List.map_append, List.nodup_append]
    refine ⟨h.files, List.nodup_singleton _, ?_⟩
    intro id hid id' hid' heq
    obtain ⟨f, hf, rfl⟩ := List.mem_map.mp hid
    rw [List.mem_singleton.mp hid'] at heq
    exact hunused.1 f hf (heq ▸ List.mem_cons_self)
  · show ((t.chunks ++ rows).map (·.id)).Nodup
    rw [List.map_append, List.nodup_append]
    refine ⟨h.chunks, hids, ?_⟩
    intro id hid id' hid' heq
    obtain ⟨c, hc, rfl⟩ := List.mem_map.mp hid
    exact hunused.2 c hc (List.mem_cons_of_mem _ (heq ▸ hid'))
  · intro f hf
    rcases List.mem_append.mp hf with hf | hf
    · obtain ⟨rows', hlists⟩ := h.lists f hf
      exact ⟨rows', hlists.of_stored fun c hc => List.mem_append_left _ (hlists.stored c hc)⟩
    · rw [List.mem_singleton.mp hf]
      refine ⟨rows, rfl, hids, fun c hc => List.mem_append_right _ hc, hrows.owner, ?_, rfl⟩
      have hlaid := laidOut_pieces content
      rw [← hrows.bytes, List.map_map] at hlaid
      exact hlaid
  · intro c hc
    rcases List.mem_append.mp hc with hc | hc
    · obtain ⟨f, hf, hlisted⟩ := h.listed c hc
      exact ⟨f, List.mem_append_left _ hf, hlisted⟩
    · refine ⟨uploadedFile made finished file rows, List.mem_append_right _ (List.mem_singleton.mpr rfl), ?_⟩
      exact ⟨(hrows.owner c hc).symm, List.mem_map_of_mem hc⟩

/-! ## Deletions -/

/-- **A deletion keeps the tables intact**: it takes the chunks of the file along, and no others. -/
theorem Intact.deleteFile {t : Tables} (h : t.Intact) (id : Uuid) : (t.deleteFile id).Intact := by
  have hfiles : (t.deleteFile id).files = t.files.filter (·.id ≠ id) := rfl
  have hchunks : (t.deleteFile id).chunks = t.chunks.filter (·.fileId ≠ id) := rfl
  -- what is left was there before; a chunk stays with its file, since it goes by its owner
  refine ⟨?_, ?_, ?_, ?_⟩
  · exact h.files.sublist (List.filter_sublist.map _)
  · exact h.chunks.sublist (List.filter_sublist.map _)
  · intro f hf
    rw [hfiles, List.mem_filter] at hf
    obtain ⟨rows, hlists⟩ := h.lists f hf.1
    refine ⟨rows, hlists.of_stored fun c hc => ?_⟩
    rw [hchunks, List.mem_filter, hlists.owner c hc]
    exact ⟨hlists.stored c hc, hf.2⟩
  · intro c hc
    rw [hchunks, List.mem_filter] at hc
    obtain ⟨f, hf, howner, hmem⟩ := h.listed c hc.1
    refine ⟨f, ?_, howner, hmem⟩
    rw [hfiles, List.mem_filter, howner]
    exact ⟨hf, hc.2⟩

/-! ## Metadata -/

/-- **New metadata keeps the tables intact**: it is no part of the layout. -/
theorem Intact.setMetadata {t : Tables} (h : t.Intact) (now : Timestamp) (id : Uuid)
    (data : Option Bytes) : (t.setMetadata now id data).Intact := by
  -- the row that changes keeps all that the layout is read from
  have hchanged : ∀ f : FileRecord,
      (if f.id = id then { f with metadata := data, updatedAt := now } else f).id = f.id ∧
      (if f.id = id then { f with metadata := data, updatedAt := now } else f).chunkIds = f.chunkIds ∧
      (if f.id = id then { f with metadata := data, updatedAt := now } else f).size = f.size := by
    intro f
    split <;> exact ⟨rfl, rfl, rfl⟩
  have hfiles : (t.setMetadata now id data).files.map (·.id) = t.files.map (·.id) :=
    t.alterFile_ids id fun _ => rfl
  refine ⟨by rw [hfiles]; exact h.files, h.chunks, ?_, ?_⟩
  · intro g hg
    obtain ⟨f, hf, rfl⟩ := List.mem_map.mp hg
    obtain ⟨rows, hlists⟩ := h.lists f hf
    obtain ⟨hid, hids, hsize⟩ := hchanged f
    refine ⟨rows, hids.trans hlists.chunkIds, ?_, hlists.stored, ?_, hlists.laidOut, hsize.trans hlists.size⟩
    · rw [hids]
      exact hlists.nodup
    · intro c hc
      exact (hlists.owner c hc).trans hid.symm
  · intro c hc
    obtain ⟨f, hf, howner, hmem⟩ := h.listed c hc
    obtain ⟨hid, hids, -⟩ := hchanged f
    refine ⟨_, List.mem_map_of_mem hf, hid.trans howner, ?_⟩
    rw [hids]
    exact hmem

end Tables
end ChunkVault.Memory
