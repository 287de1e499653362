/-
# ChunkVault.Proofs.Chunking -- what is written depends on the bytes alone

A source hands out its bytes in reads of whatever lengths, with interruptions and pauses in between. None of
that can be told from what is written: the chunks of an upload are the one cut of the bytes that came before the
first read of no bytes (`CutOf`), and the size and the order that are noted at last are those of the cut
(`writeFile_canonical`).

Like all that is said of uploads, this holds over every store and under every token.
-/
import ChunkVault.Proofs.Upload

namespace ChunkVault

open Program

/-! ## The cut -/

/-- The cut of content into chunks: as many as it takes, each of them whole but for the last, and none
empty. -/
structure CutOf (content : Bytes) (chunks : List Bytes) : Prop where
  flatten : chunks.flatten = content
  count : chunks.length = (content.length + (chunkSize - 1)) / chunkSize
  whole : ∀ c ∈ chunks.dropLast, c.length = chunkSize
  last : ∀ c ∈ chunks.getLast?, 1 ≤ c.length ∧ c.length ≤ chunkSize

/-- What is laid out is whole but for its last part, and that is not empty. -/
theorem laidOut_iff {lengths : List Nat} : LaidOut lengths ↔
    (∀ n ∈ lengths.dropLast, n = chunkSize) ∧ ∀ n ∈ lengths.getLast?, 1 ≤ n ∧ n ≤ chunkSize := by
  induction lengths with
  | nil => simp [LaidOut]
  | cons n lengths ih =>
    cases lengths with
    | nil => simp [LaidOut, Nat.succ_le_iff]
    | cons m rest =>
      rw [LaidOut, ih, List.dropLast_cons_cons, List.getLast?_cons_cons, List.forall_mem_cons, and_assoc]

theorem CutOf.laidOut {content : Bytes} {chunks : List Bytes} (h : CutOf content chunks) :
    LaidOut (chunks.map List.length) := by
  rw [laidOut_iff, ← List.map_dropLast, List.getLast?_map]
  refine ⟨?_, ?_⟩
  · intro n hn
    obtain ⟨c, hc, rfl⟩ := List.mem_map.mp hn
    exact h.whole c hc
  · intro n hn
    obtain ⟨c, hc, rfl⟩ := Option.map_eq_some_iff.mp hn
    exact h.last c hc

theorem cutOf_pieces (content : Bytes) : CutOf content (pieces content) := by
  have hlaid := laidOut_iff.mp (laidOut_pieces content)
  rw [← List.map_dropLast, List.getLast?_map] at hlaid
  refine ⟨flatten_pieces content, length_pieces content, ?_, ?_⟩
  · exact fun c hc => hlaid.1 _ (List.mem_map_of_mem hc)
  · exact fun c hc => hlaid.2 _ (Option.map_eq_some_iff.mpr ⟨c, hc, rfl⟩)

/-- **There is one cut.** -/
theorem cutOf_iff {content : Bytes} {chunks : List Bytes} : CutOf content chunks ↔ chunks = pieces content := by
  constructor
  · intro h
    rw [← h.flatten, pieces_flatten h.laidOut]
  · rintro rfl
    exact cutOf_pieces content

/-- No chunk of a cut is empty. -/
theorem CutOf.ne_nil {content : Bytes} {chunks : List Bytes} (h : CutOf content chunks) {c : Bytes}
    (hc : c ∈ chunks) : c ≠ [] := by
  have hpos : 1 ≤ c.length := by
    obtain rfl | ⟨front, last, rfl⟩ := List.eq_nil_or_concat chunks
    · exact absurd hc List.not_mem_nil
    · rw [List.concat_eq_append] at h hc
      rcases List.mem_append.mp hc with hc | hc
      · rw [h.whole c (by rwa [List.dropLast_concat])]
        exact chunkSize_pos
      · rw [List.mem_singleton.mp hc]
        exact (h.last last (by rw [List.getLast?_concat]; rfl)).1
  exact List.ne_nil_of_length_pos hpos

/-! ## What is delivered -/

/-- What a source would hand out after a read of no bytes is not delivered. -/
theorem Source.delivery_append_nothing (front rest : Source) :
    Source.delivery (front ++ SourceEvent.nothing :: rest) = Source.delivery front := by
  induction front with
  | nil => rfl
  | cons event front ih =>
    rw [List.cons_append]
    cases event with
    | bytes content => rw [Source.delivery, Source.delivery, ih]
    | fail e => rw [Source.delivery, Source.delivery, ih]
    | cancel token => exact ih
    | stall token => rfl
    | pause => exact ih
    | nothing => rfl

/-! ## What is written -/

/-- The bytes of the chunks that these calls insert, in their order. -/
def insertedBytes (l : List CallRecord) : List Bytes :=
  l.filterMap fun c => match c.request with
    | .insertChunk _ _ bytes => some bytes
    | _ => none

/-- The sizes that these calls note for a file, each with the number of its chunks. -/
def notedSizes (l : List CallRecord) : List (Int × Nat) :=
  l.filterMap fun c => match c.request with
    | .finishFile _ _ size ids => some (size, ids.length)
    | _ => none

theorem insertedBytes_uploadCalls (tx : TxId) (file : Uuid) (rows : List ChunkRecord) :
    insertedBytes (uploadCalls tx file rows) = rows.map (·.bytes) := by
  rw [insertedBytes, uploadCalls, List.filterMap_cons_none rfl, List.filterMap_append, insertCalls,
    List.filterMap_map]
  exact (List.append_nil _).trans (List.filterMap_eq_map ▸ rfl)

theorem notedSizes_uploadCalls (tx : TxId) (file : Uuid) (rows : List ChunkRecord) :
    notedSizes (uploadCalls tx file rows) = [(totalSize rows, rows.length)] := by
  have hnone : (insertCalls tx rows).filterMap (fun c => match c.request with
      | .finishFile _ _ size ids => some (size, ids.length)
      | _ => none) = [] := by
    rw [insertCalls, List.filterMap_map]
    exact List.filterMap_eq_nil_iff.mpr fun _ _ => rfl
  rw [notedSizes, uploadCalls, List.filterMap_cons_none rfl, List.filterMap_append, hnone, finishCall]
  show [(totalSize rows, (rows.map (·.id)).length)] = _
  rw [List.length_map]

/-- The script of an upload, by the bytes and the ids of its rows. -/
theorem uploadCalls_eq {tx : TxId} {file : Uuid} {content : Bytes} {rows : List ChunkRecord}
    (h : RowsOf file (pieces content) rows) :
    uploadCalls tx file rows =
      .ok (.insertFile tx) file :: (rows.map (fun c => .ok (.insertChunk tx file c.bytes) c.id) ++
        [.ok (.finishFile tx file content.length (rows.map (·.id))) ()]) := by
  have hinserts : insertCalls tx rows = rows.map fun c => .ok (.insertChunk tx file c.bytes) c.id :=
    List.map_congr_left fun c hc => by rw [h.owner c hc]
  have hsize : totalSize rows = content.length := by rw [totalSize_eq, h.flatten]
  rw [uploadCalls, hinserts, finishCall, hsize]

/-- **What is written depends on the bytes alone.** An upload that succeeds has inserted its file, the cut of what
its source has delivered, chunk by chunk, and has noted the number of the bytes and the chunks in their order.
What comes after a read of no bytes is not among it, and any other source of the same bytes is written as the
same chunks. An upload that nothing hinders succeeds, if its source comes to its end. -/
theorem writeFile_canonical {token : Token} {tx : TxId} {source : Source} {es : List Exchange}
    {r : Except StorageError Uuid} (h : (writeFile token tx source).Ends es r) :
    (∀ file, r = .ok file → source.ending = .ended ∧ ∃ rows : List ChunkRecord,
      CutOf source.delivered (rows.map (·.bytes)) ∧ (∀ c ∈ rows, c.bytes ≠ []) ∧
      calls es = .ok (.insertFile tx) file :: (rows.map (fun c => .ok (.insertChunk tx file c.bytes) c.id) ++
        [.ok (.finishFile tx file source.delivered.length (rows.map (·.id))) ()]) ∧
      (∀ front rest, source = front ++ .nothing :: rest →
        (rows.map (·.bytes)).flatten = Source.delivered front) ∧
      ∀ token' tx' source' es' file', (writeFile token' tx' source').Ends es' (.ok file') →
        source'.delivered = source.delivered →
        insertedBytes (calls es') = insertedBytes (calls es) ∧ notedSizes (calls es') = notedSizes (calls es)) ∧
    (source.ending = .ended → ¬Hindered token es → ∃ file, r = .ok file) := by
  rcases writeFile_ends h with ⟨file, rows, rfl, hend, hrows, hcalls⟩ | ⟨e, file, rows, rfl, -, -, hwhy⟩
  · refine ⟨?_, fun _ _ => ⟨file, rfl⟩⟩
    intro _ heq
    obtain rfl := Except.ok.inj heq
    have hcut : CutOf source.delivered (rows.map (·.bytes)) := cutOf_iff.mpr hrows.bytes
    refine ⟨hend, rows, hcut, fun c hc => hcut.ne_nil (List.mem_map_of_mem hc), ?_, ?_, ?_⟩
    · rw [hcalls, uploadCalls_eq hrows]
    · rintro front rest rfl
      rw [hrows.flatten]
      exact congrArg Prod.fst (Source.delivery_append_nothing front rest)
    · intro token' tx' source' es' file' h' hsame
      rcases writeFile_ends h' with ⟨_, rows', heq, -, hrows', hcalls'⟩ | ⟨_, _, _, heq, -⟩
      · rw [hsame] at hrows'
        have hlength : rows'.length = rows.length := by
          rw [← List.length_map (·.bytes), hrows'.bytes, ← hrows.bytes, List.length_map]
        rw [hcalls, hcalls', insertedBytes_uploadCalls, insertedBytes_uploadCalls, notedSizes_uploadCalls,
          notedSizes_uploadCalls, hrows'.bytes, hrows.bytes, totalSize_eq, totalSize_eq, hrows'.flatten,
          hrows.flatten, hlength]
        exact ⟨rfl, rfl⟩
      · cases heq
  · refine ⟨nofun, fun hend hfree => absurd hwhy ?_⟩
    exact not_or.mpr ⟨hfree, not_not_intro hend⟩

/-- Two bytes come one by one, with an interruption between them, and a third one after a read of no bytes: it is
not written, and a source that hands out the two at once is written as the same chunk. -/
theorem writeFile_canonical_two_reads :
    let source : Source := [.bytes [97], .fail ⟨.interrupted, ""⟩, .bytes [98], .nothing, .bytes [99]]
    ∃ es es', (writeFile .own 0 source).Ends es (.ok (.issue 0)) ∧
      (writeFile .own 0 [.bytes [97, 98]]).Ends es' (.ok (.issue 0)) ∧
      calls es = [.ok (.insertFile 0) (.issue 0), .ok (.insertChunk 0 (.issue 0) [97, 98]) (.issue 1),
        .ok (.finishFile 0 (.issue 0) 2 [.issue 1]) ()] ∧
      insertedBytes (calls es') = insertedBytes (calls es) := by
  intro source
  let inserted : Exchange := ⟨.race .own (.insertFile 0), .finished (.ok (.issue 0))⟩
  let written : List Exchange := [⟨.fired .own, false⟩,
    ⟨.race .own (.insertChunk 0 (.issue 0) [97, 98]), .finished (.ok (.issue 1))⟩,
    ⟨.race .own (.finishFile 0 (.issue 0) 2 [.issue 1]), .finished (.ok ())⟩]
  have h : (writeFile .own 0 source).Ends (inserted :: written) (.ok (.issue 0)) :=
    ⟨_, _, rfl, _, _, rfl, _, _, rfl, _, _, rfl, rfl, rfl⟩
  have h' : (writeFile .own 0 [.bytes [97, 98]]).Ends (inserted :: written) (.ok (.issue 0)) :=
    ⟨_, _, rfl, _, _, rfl, _, _, rfl, _, _, rfl, rfl, rfl⟩
  obtain ⟨-, rows, -, -, -, -, hsame⟩ := (writeFile_canonical h).1 _ rfl
  exact ⟨_, _, h, h', rfl, (hsame _ _ _ _ _ h' rfl).1⟩

end ChunkVault
