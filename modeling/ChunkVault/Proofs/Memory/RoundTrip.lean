/-
# ChunkVault.Proofs.Memory.RoundTrip -- what was saved is read back

On a quiet bench a save succeeds, the file opens with the length of what was saved, and draining its reader
brings exactly that. Neither the reads that the source was delivered in nor the buffers that the caller
reads into have a say in it: the first meet the writer's chunks, the second the reader's, and both are the
pieces of the same content.

The ids that the store issues for the upload have to be different from each other. The length of the
content sees to that; whatever other rows the store holds is of no concern.
-/
import ChunkVault.Proofs.Drain
import ChunkVault.Proofs.Memory.Publication
import ChunkVault.Proofs.Memory.Quiet

namespace ChunkVault

open Program Memory

/-! ## Fragments -/

/-- A source that hands out this content in reads of one or more bytes, with interrupted reads and pauses in
between. -/
inductive Source.Fragments : Bytes → Source → Prop
  | nil : Fragments [] []
  | bytes {piece content : Bytes} {source : Source} (hpiece : piece ≠ [])
      (h : Fragments content source) : Fragments (piece ++ content) (.bytes piece :: source)
  | interrupted {content : Bytes} {source : Source} {e : IoError} (he : e.kind = .interrupted)
      (h : Fragments content source) : Fragments content (.fail e :: source)
  | pause {content : Bytes} {source : Source} (h : Fragments content source) :
      Fragments content (.pause :: source)

theorem Source.Fragments.delivery {content : Bytes} {source : Source} (h : Source.Fragments content source) :
    source.delivery = (content, .ended) := by
  induction h with
  | nil => rfl
  | @bytes piece content source hpiece h ih =>
    show (piece ++ source.delivery.1, source.delivery.2) = _
    rw [ih]
  | @interrupted content source e he h ih =>
    show (if e.kind = .interrupted then source.delivery else _) = _
    rw [if_pos he, ih]
  | pause h ih => exact ih

/-! ## What is stored -/

namespace Memory

theorem find?_of_nodup {chunks : List ChunkRecord} (hnodup : (chunks.map (·.id)).Nodup) {c : ChunkRecord}
    (hc : c ∈ chunks) : chunks.find? (·.id = c.id) = some c := by
  induction chunks with
  | nil => exact absurd hc List.not_mem_nil
  | cons d chunks ih =>
    rw [List.map_cons, List.nodup_cons] at hnodup
    rcases List.mem_cons.mp hc with rfl | hc
    · exact List.find?_cons_of_pos (decide_eq_true rfl)
    · have hne : d.id ≠ c.id := fun heq => hnodup.1 (heq ▸ List.mem_map_of_mem hc)
      rw [List.find?_cons_of_neg (by simpa using hne)]
      exact ih hnodup.2 hc

/-- Tables that hold this row, and under their ids these chunks. -/
structure Tables.Keeps (t : Tables) (row : FileRecord) (rows : List ChunkRecord) : Prop where
  file? : t.file? row.id = some row
  chunk? : ∀ c ∈ rows, t.chunk? c.id = some c

/-- Rows that replace those of their ids are found under them. -/
theorem Tables.keeps_of_added {t : Tables} {row : FileRecord} {rows : List ChunkRecord}
    (hnodup : (rows.map (·.id)).Nodup) :
    Tables.Keeps ⟨(t.without row.id (rows.map (·.id))).files ++ [row],
      (t.without row.id (rows.map (·.id))).chunks ++ rows⟩ row rows where
  file? := by
    have hnone : (t.files.filter (·.id ≠ row.id)).find? (·.id = row.id) = none := by
      rw [List.find?_eq_none]
      intro f hf
      simpa using (List.mem_filter.mp hf).2
    show ((t.files.filter (·.id ≠ row.id)) ++ [row]).find? (·.id = row.id) = some row
    rw [List.find?_append, hnone]
    simp
  chunk? c hc := by
    have hnone : (t.chunks.filter (·.id ∉ rows.map (·.id))).find? (·.id = c.id) = none := by
      rw [List.find?_eq_none]
      intro d hd heq
      have hmem : c.id ∈ rows.map (·.id) := List.mem_map_of_mem hc
      rw [← of_decide_eq_true heq] at hmem
      exact of_decide_eq_true (List.mem_filter.mp hd).2 hmem
    show ((t.chunks.filter (·.id ∉ rows.map (·.id))) ++ rows).find? (·.id = c.id) = some c
    rw [List.find?_append, hnone, find?_of_nodup hnodup hc]
    rfl

end Memory

/-! ## What a quiet bench answers a reader -/

namespace Bench

/-- The bench is quiet, and its store holds these tables. -/
def Shows (t : Tables) (b : Bench) : Prop := ∃ s, b.Quiet s ∧ s.tables = t

/-- **Fetches on a quiet bench bring the chunks of the file**, and leave the tables as they are. -/
theorem answer_fetches {t : Tables} {row : FileRecord} {rows : List ChunkRecord} (hkeeps : t.Keeps row rows)
    {q : Query} (hq : q.Fetches) {b b' : Bench} {a : q.Answer} (h : Answering Bench.answer q b a b')
    (hb : b.Shows t) :
    Exchange.Serves .own (rows.map (·.id)) (rows.map (·.bytes)) ⟨q, a⟩ ∧ b'.Shows t := by
  obtain ⟨s, hquiet, rfl⟩ := hb
  cases q with
  | race token q =>
    cases q with
    | findChunk id =>
      by_cases hfired : b.hasFired token = true
      · have hanswer : Bench.answer (.race token (.findChunk id)) b = (.refused, b) := if_pos hfired
        obtain ⟨rfl, rfl⟩ := Prod.mk.inj (hanswer.symm.trans h)
        -- the token of the reader itself never fires
        refine ⟨?_, s, hquiet, rfl⟩
        rintro rfl
        cases hfired
      · obtain ⟨b₁, hattempt, hquiet₁⟩ := attempt_quiet hquiet token (.findChunk id)
        have hanswer : Bench.answer (.race token (.findChunk id)) b = b.attempt token (.findChunk id) :=
          if_neg hfired
        obtain ⟨rfl, rfl⟩ := Prod.mk.inj (hattempt.symm.trans (hanswer.symm.trans h))
        have htables : (s.serve (.findChunk id)).2.tables = s.tables := by
          rw [Store.serve_findChunk]
        refine ⟨?_, _, hquiet₁, htables⟩
        intro _ i chunk hid hchunk
        rw [List.getElem?_map] at hid hchunk
        obtain ⟨c, hc, rfl⟩ := Option.map_eq_some_iff.mp hid
        rw [hc] at hchunk
        obtain rfl := Option.some.inj hchunk
        rw [Store.findChunk_quiet hquiet.faults, hkeeps.chunk? c (List.mem_of_getElem? hc)]
        rfl
    | _ => cases hq
  | count method failed =>
    obtain ⟨-, rfl⟩ := Prod.mk.inj h
    exact ⟨trivial, s, ⟨hquiet.holds, hquiet.hooks, hquiet.faults⟩, rfl⟩
  | _ => cases hq

/-- A file on a quiet bench opens with its size, its chunks and a reader at its front. -/
theorem run_open_quiet {t : Tables} {row : FileRecord} {rows : List ChunkRecord} (hkeeps : t.Keeps row rows)
    {b : Bench} (hb : b.Shows t) :
    ∃ b', b.run (Storage.open .own row.id) = (.ok ⟨row.info, .new .own row.size row.chunkIds⟩, b') ∧
      b'.Shows t := by
  obtain ⟨s, hquiet, rfl⟩ := hb
  obtain ⟨b₁, hrace, hquiet₁⟩ := run_race_quiet hquiet (.findFile row.id)
  have hfound : (s.serve (.findFile row.id)).1 = .ok (some row) := congrArg Except.ok hkeeps.file?
  rw [hfound] at hrace
  unfold Storage.open
  refine Exists.imp (fun b' h => ⟨h.1, s, h.2, rfl⟩) (run_counted_quiet .open ?_ hquiet₁)
  simp only [bind_eq, run_bind hrace]
  rfl

/-- A file whose chunks hold this content is drained of it on a quiet bench. -/
theorem run_drain_quiet {t : Tables} {row : FileRecord} {rows : List ChunkRecord} (hkeeps : t.Keeps row rows)
    {content : Bytes} (hrows : rows.map (·.bytes) = pieces content) (hsize : row.size = content.length)
    (hids : row.chunkIds = rows.map (·.id)) {b : Bench} (hb : b.Shows t) {rooms : List Nat}
    (hrooms : ∀ room ∈ rooms, 0 < room) :
    ∃ got r b', b.run ((Reader.new .own row.size row.chunkIds).drain rooms) = ((.ok got, r), b') ∧
      Reader.Drained content rooms got := by
  obtain ⟨es, hends, halong⟩ :=
    run_ends Bench.answer ((Reader.new .own row.size row.chunkIds).drain rooms) b
  have hserved := (halong.exchanges (fun q w a w' hq ha hw => answer_fetches hkeeps hq ha hw)
    ((Reader.drain_asks rooms _).queries hends) hb).1
  rw [hrows] at hserved
  have hlength : (rows.map (·.id)).length = (pieces content).length := by
    rw [← hrows, List.length_map, List.length_map]
  have htracks := Reader.new_tracks content .own (rows.map (·.id))
  rw [← hids, ← hsize] at htracks
  rw [← hids] at hserved hlength
  obtain ⟨got, hgot, hdrained⟩ := Reader.drain_tracks hlength hrooms htracks rfl rfl hends hserved
  exact ⟨got, _, _, Prod.ext (Prod.ext hgot rfl) rfl, hdrained⟩

/-- **What a save on a quiet bench leaves behind**: a row of the length of the content, and under the ids
that it lists the pieces of the content. -/
theorem run_save_keeps {b : Bench} {s : Store} {source : Source} {content : Bytes} (h : b.Quiet s)
    (hsource : source.Fragments content) (hlen : content.length ≤ maxPosition) :
    ∃ row rows b' t, b.run (Storage.save .own source) = (.ok row.id, b') ∧ b'.Shows t ∧
      t.Keeps row rows ∧ rows.map (·.bytes) = pieces content ∧ row.size = content.length ∧
      row.chunkIds = rows.map (·.id) := by
  have hdelivered : source.delivered = content := congrArg Prod.fst hsource.delivery
  have hending : source.ending = .ended := congrArg Prod.snd hsource.delivery
  obtain ⟨file, b₁, s₁, hsave, hquiet₁⟩ := run_save_quiet h hending
  obtain ⟨es, s', hends, hholds, halong⟩ := run_answers (fun _ => False) h.holds (Storage.save .own source)
  rw [hsave] at hends hholds
  -- the same run seen in two ways: it succeeds as on a quiet bench, and moves the store by its calls
  obtain rfl : s₁ = s' := Backend.memory.inj (hquiet₁.holds.symm.trans hholds)
  have hmoves := Store.along_calls (halong.mono fun _ _ _ _ => Store.Answers.amidst)
  generalize hr : (Except.ok file : Except StorageError Uuid) = r at hends
  cases save_ends hends with
  | unbegun => cases hr
  | rolledBack => cases hr
  | @committed tx id rows o hrows hend hcalls hwhy =>
    cases o with
    | error e => cases hr
    | ok u =>
      obtain rfl := Except.ok.inj hr
      rw [hdelivered] at hrows
      rw [hcalls] at hmoves
      have hcount : rows.length = (pieces content).length := by rw [← hrows.bytes, List.length_map]
      have hnodup : (issuedBetween s.issued (s.issued + (rows.length + 1))).Nodup := by
        -- content of this length has fewer chunks than there are ids
        refine nodup_issuedBetween ?_
        rw [hcount, length_pieces]
        simp only [chunkSize, Uuid.issueCount, maxPosition] at hlen ⊢
        omega
      obtain ⟨made, finished, hids, htables⟩ := Store.tables_of_upload hmoves id hnodup
      rw [← hids] at hnodup
      have hkeeps := @Tables.keeps_of_added s.tables (uploadedFile made finished file rows) rows
        (List.nodup_cons.mp hnodup).2
      have hsize : totalSize rows = content.length := by rw [totalSize_eq, hrows.flatten]
      exact ⟨uploadedFile made finished file rows, rows, b₁, _, hsave, ⟨s₁, hquiet₁, htables⟩, hkeeps,
        hrows.bytes, hsize, rfl⟩

/-- **What was saved is read back.** On a quiet bench the save of a fragmented source succeeds, the file
opens with the length of the content, and its reader is drained of exactly the content, into buffers of
whatever lengths. Of a file without content the first read finds the end and fetches nothing. -/
theorem save_open_drain {b : Bench} {s : Store} {source : Source} {content : Bytes} (h : b.Quiet s)
    (hsource : source.Fragments content) (hlen : content.length ≤ maxPosition) :
    ∃ id b₁ file b₂, b.run (Storage.save .own source) = (.ok id, b₁) ∧
      b₁.run (Storage.open .own id) = (.ok file, b₂) ∧ file.info.size = content.length ∧
      (∀ rooms : List Nat, (∀ room ∈ rooms, 0 < room) →
        ∃ got r b₃, b₂.run (file.reader.drain rooms) = ((.ok got, r), b₃) ∧
          Reader.Drained content rooms got) ∧
      (content = [] → ∀ room, ∃ r, b₂.run (file.reader.read room) = ((.error .endOfStream, r), b₂)) := by
  obtain ⟨row, rows, b₁, t, hsave, hshows, hkeeps, hbytes, hsize, hids⟩ := run_save_keeps h hsource hlen
  obtain ⟨b₂, hopen, hshows₂⟩ := run_open_quiet hkeeps hshows
  refine ⟨row.id, b₁, _, b₂, hsave, hopen, hsize, ?_, ?_⟩
  · intro rooms hrooms
    exact run_drain_quiet hkeeps hbytes hsize hids hshows₂ hrooms
  · rintro rfl room
    have hzero : row.size = 0 := hsize
    rw [hzero]
    exact ⟨_, rfl⟩

/-- Five bytes that a source hands out in two reads, with an interrupted one in between, saved on a bench
whose store is empty and read into a buffer of two and three of four. -/
theorem save_open_drain_five_bytes :
    ∃ id b₁ file b₂ r b₃,
      (Bench.new (.memory .empty)).run
          (Storage.save .own [.bytes [1, 2], .fail ⟨.interrupted, "again"⟩, .bytes [3, 4, 5]]) =
        (.ok id, b₁) ∧
      b₁.run (Storage.open .own id) = (.ok file, b₂) ∧ file.info.size = 5 ∧
      b₂.run (file.reader.drain [2, 4, 4, 4, 4, 4]) = ((.ok ([1, 2, 3, 4, 5], true), r), b₃) := by
  have hquiet : (Bench.new (.memory .empty)).Quiet .empty := ⟨rfl, rfl, rfl⟩
  have hsource : Source.Fragments [1, 2, 3, 4, 5]
      [.bytes [1, 2], .fail ⟨.interrupted, "again"⟩, .bytes [3, 4, 5]] :=
    .bytes (List.cons_ne_nil 1 [2]) (.interrupted rfl (.bytes (List.cons_ne_nil 3 [4, 5]) .nil))
  obtain ⟨id, b₁, file, b₂, hsave, hopen, hsize, hdrain, -⟩ :=
    save_open_drain hquiet hsource (by decide)
  obtain ⟨⟨got, ended⟩, r, b₃, hrun, hdrained⟩ := hdrain [2, 4, 4, 4, 4, 4] (by decide)
  have hended : ended = true := hdrained.ends (by decide)
  have hgot : got = [1, 2, 3, 4, 5] := hdrained.whole hended
  rw [hended, hgot] at hrun
  exact ⟨id, b₁, file, b₂, r, b₃, hsave, hopen, hsize, hrun⟩

end Bench
end ChunkVault
