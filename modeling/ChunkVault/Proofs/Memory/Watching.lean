/-
# ChunkVault.Proofs.Memory.Watching -- reading a file while others write

A reader learns the size and the chunks of its file when the file is opened, and asks for one chunk at a time
afterwards. Between any two of its fetches, operations may begin, go on and be decided, on any files (`Amid`).

A file that was opened was saved before, and its chunks are there or all of them are gone, which takes a
delete of the file (`Opened.chunks`). So a fetch brings the right chunk or none, and what a read comes to is
listed by `WatchedRead`: the bytes that stand at its position, the end of the content where it is, or, after a
delete and for a chunk that is not at hand, `notFound` for good.
-/
import ChunkVault.Proofs.Drain
import ChunkVault.Proofs.Latch
import ChunkVault.Proofs.Memory.Linearization

namespace ChunkVault

open Program

/-- Whether a query only looks: for a chunk, or for the row of a file. -/
def Query.Looks : Query → Prop
  | .race _ (.findChunk _) | .race _ (.findFile _) | .count .. => True
  | _ => False

theorem Query.Fetches.looks {q : Query} (h : q.Fetches) : q.Looks := by
  unfold Query.Fetches at h
  split at h
  · exact trivial
  · exact trivial
  · cases h

/-! ## What a read asks -/

namespace Reader

variable {r : Reader} {es : List Exchange} {room : Nat}

/-- **A read asks for one chunk, or nothing**: the chunk that the position lies in, if it is not at hand. If
there is no such chunk, the read fails. -/
theorem read_asked {result : Except StorageError ReadOutcome × Reader} (hrun : (r.read room).Ends es result) :
    es = [] ∨ ∃ id race rest, es = ⟨.race r.token (.findChunk id), race⟩ :: rest ∧
      (∀ x ∈ rest, ∃ method failed, x = ⟨.count method failed, ()⟩) ∧ r.cachedAt? r.index = none ∧
      r.chunkIds[r.index]? = some id ∧ (race = .finished (.ok none) → result = r.fail .notFound) := by
  by_cases hreach : r.Reaches
  · cases hreach.readRun hrun with
    | atHand _ => exact .inl rfl
    | outOfRange _ _ => exact .inl rfl
    | fetched hat hid hrest =>
      refine .inr ⟨_, _, _, rfl, hrest, hat, hid, ?_⟩
      rintro rfl
      rfl
  · obtain ⟨e, r₁, -, hdone⟩ := read_unreached hreach room
    rw [hdone] at hrun
    exact .inl hrun.1

end Reader

theorem Reader.session_asks (ops : List CursorOp) (r : Reader) : (r.session ops).Asks Query.Fetches := by
  induction ops generalizing r with
  | nil => exact trivial
  | cons op ops ih =>
    have hop : (r.perform op).Asks Query.Fetches := by
      cases op with
      | read buffer => exact (r.read_asks buffer.length).bind fun _ => trivial
      | seek offset whence => exact trivial
      | close => exact trivial
    exact hop.bind fun answer => (ih answer.2).bind fun _ => trivial

/-- A read or a seek that fails with this error. -/
def CursorAnswer.Fails (e : StorageError) : CursorAnswer → Prop
  | .read result _ => result = .error e
  | .seek result => result = .error e
  | .close _ => True

/-- **A failed reader stays failed**, whatever is done with it. -/
theorem Reader.session_failed {r r' : Reader} {e : StorageError} (h : r.state = .failed e)
    {ops : List CursorOp} {es : List Exchange} {replies : List CursorReply}
    (hrun : (r.session ops).Ends es (replies, r')) :
    es = [] ∧ r'.state = .failed e ∧ ∀ reply ∈ replies, reply.answer.Fails e := by
  induction ops generalizing r es replies with
  | nil =>
    obtain ⟨rfl, heq⟩ := hrun
    obtain ⟨rfl, rfl⟩ := Prod.mk.inj heq
    exact ⟨rfl, h, fun reply hreply => absurd hreply List.not_mem_nil⟩
  | cons op ops ih =>
    obtain ⟨es₁, es₂, reply, r₁, rest, rfl, hop, hops, rfl⟩ := Reader.ends_session_cons.mp hrun
    have hone : es₁ = [] ∧ r₁.state = .failed e ∧ reply.answer.Fails e := by
      cases op with
      | read buffer =>
        rw [Reader.perform, Reader.read_failed h] at hop
        obtain ⟨rfl, heq⟩ := hop
        obtain ⟨rfl, rfl⟩ := Prod.mk.inj heq
        exact ⟨rfl, h, rfl⟩
      | seek offset whence =>
        rw [Reader.perform, Reader.seek_failed h] at hop
        obtain ⟨rfl, heq⟩ := hop
        obtain ⟨rfl, rfl⟩ := Prod.mk.inj heq
        exact ⟨rfl, h, rfl⟩
      | close =>
        obtain ⟨rfl, heq⟩ := hop
        obtain ⟨rfl, rfl⟩ := Prod.mk.inj heq
        exact ⟨rfl, r.close_lasts.state.trans h, trivial⟩
    obtain ⟨rfl, h₁, hreply⟩ := hone
    obtain ⟨rfl, h₂, hrest⟩ := ih h₁ hops
    exact ⟨rfl, h₂, List.forall_mem_cons.mpr ⟨hreply, hrest⟩⟩

namespace Memory

/-! ## Moments of a run -/

namespace System

variable {σ₀ σ σ' : System} {order new : List Nat}

theorem Run.trans (h : Run σ₀ order σ) (h' : Run σ new σ') : Run σ₀ (order ++ new) σ' := by
  induction h' with
  | refl =>
    rw [List.append_nil]
    exact h
  | step _ hstep ih =>
    rw [← List.append_assoc]
    exact ih.step hstep

/-- An operation that has begun is still there after a step, and an operation that has ended stays as it is. -/
theorem Advance.task (h : Advance σ new σ') {i : Nat} {op : Operation} {past : List Exchange}
    {rest : Program (Except StorageError op.Value)} (htask : σ.tasks[i]? = some ⟨op, past, rest⟩) :
    ∃ past' rest', σ'.tasks[i]? = some ⟨op, past', rest'⟩ ∧ ∀ r, rest = .done r → rest' = .done r := by
  cases h with
  | start op' =>
    refine ⟨past, rest, ?_, fun r hr => hr⟩
    exact (List.getElem?_append_left (List.getElem?_eq_some_iff.mp htask).1).trans htask
  | @answer j op' past' q resume a s' htask' hserved =>
    by_cases hij : j = i
    · subst hij
      rw [htask'] at htask
      cases htask
      exact ⟨_, _, List.getElem?_set_self (List.getElem?_eq_some_iff.mp htask').1, fun r => nofun⟩
    · exact ⟨past, rest, (List.getElem?_set_ne hij).trans htask, fun r hr => hr⟩
  | fetch id => exact ⟨past, rest, htask, fun r hr => hr⟩

theorem Run.task (h : Run σ new σ') {i : Nat} {op : Operation} {past : List Exchange}
    {rest : Program (Except StorageError op.Value)} (htask : σ.tasks[i]? = some ⟨op, past, rest⟩) :
    ∃ past' rest', σ'.tasks[i]? = some ⟨op, past', rest'⟩ ∧ ∀ r, rest = .done r → rest' = .done r := by
  induction h with
  | refl => exact ⟨past, rest, htask, fun r hr => hr⟩
  | step _ hstep ih =>
    obtain ⟨past₁, rest₁, htask₁, hdone₁⟩ := ih
    obtain ⟨past₂, rest₂, htask₂, hdone₂⟩ := hstep.task htask₁
    exact ⟨past₂, rest₂, htask₂, fun r hr => hdone₂ r (hdone₁ r hr)⟩

theorem Run.issued_le (h : Run σ new σ') : σ.store.issued ≤ σ'.store.issued := by
  induction h with
  | refl => exact Nat.le_refl _
  | step _ hstep ih =>
    obtain ⟨c, hmade⟩ := hstep.exists_made
    exact Nat.le_trans ih hmade.frame.issued

end System

/-- A moment of a run: the operations that were decided so far, and the system. -/
structure Moment where
  order : List Nat
  system : System

namespace Moment

/-- The operations have gone on from one moment to the other. -/
def Later (m m' : Moment) : Prop := ∃ new, System.Run m.system new m'.system ∧ m'.order = m.order ++ new

theorem Later.refl (m : Moment) : m.Later m := ⟨[], .refl, (List.append_nil _).symm⟩

theorem Later.trans {m m' m'' : Moment} (h : m.Later m') (h' : m'.Later m'') : m.Later m'' := by
  obtain ⟨new, hrun, horder⟩ := h
  obtain ⟨new', hrun', horder'⟩ := h'
  exact ⟨new ++ new', hrun.trans hrun', by rw [horder', horder, List.append_assoc]⟩

/-- An operation that has ended with this answer. -/
def Answered (m : Moment) (op : Operation) (r : Except StorageError op.Value) : Prop :=
  ∃ (i : Nat) (past : List Exchange), m.system.tasks[i]? = some ⟨op, past, .done r⟩

/-- A delete of this file was committed. -/
def Deleted (m : Moment) (file : Uuid) : Prop :=
  ∃ i ∈ m.order, ∃ past rest, m.system.tasks[i]? = some ⟨.delete file, past, rest⟩

variable {m m' : Moment}

theorem Answered.later {op : Operation} {r : Except StorageError op.Value} (h : m.Answered op r)
    (hlater : m.Later m') : m'.Answered op r := by
  obtain ⟨i, past, htask⟩ := h
  obtain ⟨new, hrun, -⟩ := hlater
  obtain ⟨past', rest', htask', hdone⟩ := hrun.task htask
  obtain rfl := hdone r rfl
  exact ⟨i, past', htask'⟩

theorem Deleted.later {file : Uuid} (h : m.Deleted file) (hlater : m.Later m') : m'.Deleted file := by
  obtain ⟨i, hi, past, rest, htask⟩ := h
  obtain ⟨new, hrun, horder⟩ := hlater
  obtain ⟨past', rest', htask', -⟩ := hrun.task htask
  exact ⟨i, horder ▸ List.mem_append_left _ hi, past', rest', htask'⟩

theorem Later.issued_le (h : m.Later m') : m.system.store.issued ≤ m'.system.store.issued := by
  obtain ⟨new, hrun, -⟩ := h
  exact hrun.issued_le

end Moment

/-- How a query of a reader is answered while operations run: they may go on before it is asked. -/
def Amid (q : Query) (m : Moment) (a : q.Answer) (m' : Moment) : Prop :=
  ∃ m₁ s', m.Later m₁ ∧ Store.Served q m₁.system.store a s' ∧ m' = ⟨m₁.order, ⟨s', m₁.system.tasks⟩⟩

variable {m m' : Moment} {es : List Exchange}

/-- A query that only looks changes nothing but the number of fetches. -/
theorem Amid.later {q : Query} {a : q.Answer} (h : Amid q m a m') (hq : q.Looks) : m.Later m' := by
  obtain ⟨m₁, s', hlater, hserved, rfl⟩ := h
  refine hlater.trans ⟨[], ?_, (List.append_nil _).symm⟩
  cases q with
  | race token q =>
    cases q with
    | findChunk id =>
      obtain ⟨-, rfl⟩ := hserved
      exact System.Run.refl.step (.fetch m₁.system id)
    | findFile id =>
      obtain ⟨-, rfl⟩ := hserved
      exact .refl
    | _ => cases hq
  | count method failed =>
    obtain rfl : s' = m₁.system.store := hserved
    exact .refl
  | _ => cases hq

theorem along_looks (h : Along Amid m es m') (hes : ∀ x ∈ es, x.query.Looks) : m.Later m' := by
  induction h with
  | nil => exact .refl _
  | cons hamid _ ih =>
    exact (Amid.later hamid (hes _ List.mem_cons_self)).trans
      (ih fun x hx => hes x (List.mem_cons_of_mem _ hx))

theorem along_later (h : Along Amid m es m') (hes : ∀ x ∈ es, x.query.Fetches) : m.Later m' :=
  along_looks h fun x hx => (hes x hx).looks

/-! ## A file that was opened -/

/-- A run in which a file was saved from this source, and opened. -/
structure Opened (s₀ : Store) (source : Source) (file : Uuid) (stored : StoredFile) (m : Moment) : Prop where
  run : System.Run ⟨s₀, []⟩ m.order m.system
  saved : ∃ token, m.Answered (.save token source) (.ok file)
  opened : ∃ token, m.Answered (.open token file) (.ok stored)

variable {s₀ : Store} {source : Source} {file : Uuid} {stored : StoredFile}

theorem Opened.later (h : Opened s₀ source file stored m) (hlater : m.Later m') :
    Opened s₀ source file stored m' where
  run := by
    obtain ⟨new, hrun, horder⟩ := hlater
    rw [horder]
    exact h.run.trans hrun
  saved := h.saved.imp fun _ hsaved => hsaved.later hlater
  opened := h.opened.imp fun _ hopened => hopened.later hlater

/-- An operation that has ended is among those that were decided. -/
theorem exists_decision {ds : List Decision} (h : m.system.Linear s₀ ds) {op : Operation}
    {r : Except StorageError op.Value} (hanswered : m.Answered op r) :
    ∃ i change, ⟨i, op, r, change⟩ ∈ ds := by
  obtain ⟨i, past, htask⟩ := hanswered
  obtain ⟨d, hd, rfl⟩ := List.mem_map.mp (h.decided_of_done htask)
  obtain ⟨past', rest, htask', hrest⟩ := h.concluded d hd
  obtain ⟨task, operation, answer, change⟩ := d
  rw [htask] at htask'
  cases htask'
  cases hrest
  exact ⟨task, change, hd⟩

/-- A delete that was decided was committed. -/
theorem deleted_of_decided {ds : List Decision} (h : m.system.Linear s₀ ds) (hds : ds.map (·.task) = m.order)
    {e : Decision} (he : e ∈ ds) (hdelete : e.operation = .delete file) : m.Deleted file := by
  obtain ⟨past, rest, htask, -⟩ := h.concluded e he
  obtain ⟨task, operation, answer, change⟩ := e
  obtain rfl : operation = .delete file := hdelete
  exact ⟨task, hds ▸ List.mem_map_of_mem he, past, rest, htask⟩

/-- **The chunks of a file that was opened** are there, as its reader knows them, or a delete of the file was
committed and all of them are gone. -/
theorem Opened.chunks (h : Opened s₀ source file stored m) (hs : s₀.faults = .none) (hunmixed : s₀.Unmixed)
    (hids : m.system.store.issued ≤ Uuid.issueCount) :
    ∃ rows token, RowsOf file (pieces source.delivered) rows ∧
      stored.reader = .new token source.delivered.length (rows.map (·.id)) ∧
      (m.system.store.tables.untimed.Held file rows ∨
        m.system.store.tables.untimed.Gone file rows ∧ m.Deleted file) := by
  obtain ⟨ds, hds, hlinear, hapart⟩ := h.run.linear hs
  obtain ⟨token, hsaved⟩ := h.saved
  obtain ⟨token', hopened⟩ := h.opened
  obtain ⟨i, change, hsave⟩ := exists_decision hlinear hsaved
  obtain ⟨j, change', hopen⟩ := exists_decision hlinear hopened
  obtain ⟨rows, hrows, hreader, hwhere⟩ := hlinear.decided.opened (hapart hunmixed hids).fresh hsave hopen
  exact ⟨rows, token', hrows, hreader, hwhere.imp_right fun ⟨hgone, _, he, hdelete⟩ =>
    ⟨hgone, deleted_of_decided hlinear hds he hdelete⟩⟩

theorem Opened.length_chunkIds (h : Opened s₀ source file stored m) (hs : s₀.faults = .none)
    (hunmixed : s₀.Unmixed) (hids : m.system.store.issued ≤ Uuid.issueCount) :
    stored.reader.chunkIds.length = (pieces source.delivered).length := by
  obtain ⟨rows, token, hrows, hreader, -⟩ := h.chunks hs hunmixed hids
  rw [hreader]
  exact hrows.length_ids

/-- **A fetch brings the right chunk or none**, and none only after a delete of the file was committed. -/
theorem Opened.fetched (h : Opened s₀ source file stored m) (hs : s₀.faults = .none) (hunmixed : s₀.Unmixed)
    {token : Token} {id : Uuid} {race : Race (Except StorageError (Option Bytes))}
    (hamid : Amid (.race token (.findChunk id)) m race m') (hids : m'.system.store.issued ≤ Uuid.issueCount)
    {i : Nat} {chunk : Bytes} (hid : stored.reader.chunkIds[i]? = some id)
    (hchunk : (pieces source.delivered)[i]? = some chunk) :
    race = .finished (.ok (some chunk)) ∨ race = .finished (.ok none) ∧ m'.Deleted file := by
  obtain ⟨rows, token', hrows, hreader, hwhere⟩ := (h.later (Amid.later hamid trivial)).chunks hs hunmixed hids
  obtain ⟨m₁, s', hlater, ⟨rfl, rfl⟩, rfl⟩ := hamid
  rw [hreader] at hid
  obtain ⟨row, hrow, rfl, rfl⟩ := hrows.exists_row hid hchunk
  have hfaults : m₁.system.store.faults = .none := by
    obtain ⟨ds, -, hlinear, -⟩ := (h.later hlater).run.linear hs
    exact hlinear.calm.faults
  have hsame : (m₁.system.store.serve (.findChunk row.id)).2.tables.untimed.chunk? row.id =
      m₁.system.store.tables.chunk? row.id := by
    rw [Store.serve_findChunk]
    rfl
  rw [Store.findChunk_quiet hfaults]
  rcases hwhere with hheld | ⟨hgone, hdeleted⟩
  · rw [hsame.symm.trans (hheld.chunk? row hrow)]
    exact .inl rfl
  · rw [hsame.symm.trans (hgone.chunk? hrow)]
    exact .inr ⟨rfl, hdeleted⟩

/-! ## Reads -/

/-- The ways in which a read of a file with this content can go, into a buffer with this room, while
operations run. -/
inductive WatchedRead (content : Bytes) (file : Uuid) (r : Reader) (room : Nat) (m : Moment)
    (es : List Exchange) (r' : Reader) : Except StorageError ReadOutcome → Prop
  /-- The bytes that stand at the position, the end being reported where it is reached. -/
  | handedOut {outcome : ReadOutcome} (hposition : 0 ≤ r.position)
      (hbytes : outcome.content <+: content.drop r.position.toNat) (hroom : outcome.content.length ≤ room)
      (hsome : 0 < room → outcome.content ≠ [])
      (hend : outcome.endOfStream = true ↔ r.position + outcome.content.length = content.length)
      (hmoved : r'.position = r.position + outcome.content.length) :
      WatchedRead content file r room m es r' (.ok outcome)
  /-- The position is at the end of the content or past it. -/
  | atEnd (hend : content.length ≤ r.position) : WatchedRead content file r room m es r' (.error .endOfStream)
  /-- The chunk is not at hand, and the fetch finds none; a delete of the file was committed before it. -/
  | gone {id : Uuid} {rest : List Exchange} {m₁ : Moment} (hcached : r.cachedAt? r.index = none)
      (hes : es = ⟨.race r.token (.findChunk id), .finished (.ok none)⟩ :: rest)
      (hfetch : Amid (.race r.token (.findChunk id)) m (.finished (.ok none)) m₁) (hdeleted : m₁.Deleted file)
      (hstate : r'.state = .failed .notFound) : WatchedRead content file r room m es r' (.error .notFound)
  /-- A read before has failed in this way. -/
  | failed (hstate : r.state = .failed .notFound) (hdeleted : m.Deleted file) (hes : es = []) (hsame : r' = r) :
      WatchedRead content file r room m es r' (.error .notFound)

/-- What a reader is like while operations run: it stands for a cursor in the content, or it has failed after
a delete of its file. -/
inductive Watches (content : Bytes) (token : Token) (ids : List Uuid) (file : Uuid) (r : Reader) (m : Moment) :
    Prop
  | tracks {c : Cursor} (htracks : r.Tracks content token ids c) (hopen : c.closed = false)
      (hdrained : c.drained = true → content.length ≤ c.position) : Watches content token ids file r m
  | failed (hstate : r.state = .failed .notFound) (hdeleted : m.Deleted file) :
      Watches content token ids file r m

variable {content : Bytes} {token : Token} {ids : List Uuid} {r r' : Reader} {room : Nat}
  {result : Except StorageError ReadOutcome}

/-- **What the cursor answers to a read is what stands in the content.** -/
theorem watched_of_cursor {c : Cursor} (h : r.Tracks content token ids c) (hopen : c.closed = false)
    (hdrained : c.drained = true → content.length ≤ c.position)
    (h' : r'.Tracks content token ids (c.read content room).2) :
    WatchedRead content file r room m es r' (c.read content room).1 ∧ Watches content token ids file r' m' := by
  have hposition := h.position
  cases hd : c.drained with
  | true =>
    have hread : c.read content room = (.error .endOfStream, c) := by rw [Cursor.read, hd, if_pos rfl]
    rw [hread] at h' ⊢
    exact ⟨.atEnd (by have := hdrained hd; omega), .tracks h' hopen hdrained⟩
  | false =>
    by_cases hp : content.length ≤ c.position
    · rw [Cursor.read_of_le hd hopen hp] at h' ⊢
      exact ⟨.atEnd (by omega), .tracks h' hopen fun _ => hp⟩
    · have hlt : c.position < content.length := Nat.lt_of_not_le hp
      have hgrant := Cursor.grant_le content c room
      have hlength : ((content.drop c.position).take (c.grant content room)).length = c.grant content room := by
        rw [List.length_take, List.length_drop, Nat.min_eq_left hgrant]
      rw [Cursor.read_of_lt hd hopen hlt] at h' ⊢
      refine ⟨.handedOut (by omega) ?_ ?_ (fun hroom => ?_) ?_ ?_, .tracks h' hopen fun hend => ?_⟩
      · rw [hposition, Int.toNat_natCast]
        exact List.take_prefix _ _
      · rw [hlength]
        exact Nat.min_le_left _ _
      · have hpos := Cursor.grant_pos hroom hlt
        rw [← hlength] at hpos
        exact List.length_pos_iff.mp hpos
      · rw [decide_eq_true_iff, hlength, hposition]
        omega
      · rw [h'.position, hlength, hposition]
        exact Int.natCast_add _ _
      · exact Nat.le_of_eq (of_decide_eq_true hend).symm

/-- **A read amid other operations.** -/
theorem Watches.read (hw : Watches source.delivered token stored.reader.chunkIds file r m)
    (h : Opened s₀ source file stored m) (hs : s₀.faults = .none) (hunmixed : s₀.Unmixed)
    (hrun : (r.read room).Ends es (result, r')) (halong : Along Amid m es m')
    (hids : m'.system.store.issued ≤ Uuid.issueCount) :
    WatchedRead source.delivered file r room m es r' result ∧
      Watches source.delivered token stored.reader.chunkIds file r' m' := by
  cases hw with
  | failed hstate hdeleted =>
    rw [Reader.read_failed hstate] at hrun
    obtain ⟨rfl, heq⟩ := hrun
    obtain ⟨rfl, rfl⟩ := Prod.mk.inj heq
    rw [along_nil] at halong
    rw [halong]
    exact ⟨.failed hstate hdeleted rfl rfl, .failed hstate hdeleted⟩
  | tracks htracks hopen hdrained =>
    have hcounts : ∀ {fs : List Exchange}, (∀ x ∈ fs, ∃ method failed, x = ⟨.count method failed, ()⟩) →
        ∀ x ∈ fs, x.query.Fetches ∧ x.Serves token stored.reader.chunkIds (pieces source.delivered) := by
      intro fs hfs x hx
      obtain ⟨method, failed, rfl⟩ := hfs x hx
      exact ⟨trivial, trivial⟩
    have hlater := along_later halong ((r.read_asks room).queries hrun)
    have hlength := (h.later hlater).length_chunkIds hs hunmixed hids
    -- a read whose fetches are served is a read of the cursor
    have hserved : (∀ x ∈ es, x.Serves token stored.reader.chunkIds (pieces source.delivered)) →
        WatchedRead source.delivered file r room m es r' result ∧
          Watches source.delivered token stored.reader.chunkIds file r' m' := fun hes => by
      obtain ⟨rfl, htracks'⟩ := Reader.read_tracks hlength htracks hrun hes
      exact watched_of_cursor htracks hopen hdrained htracks'
    rcases Reader.read_asked hrun with rfl | ⟨id, race, rest, rfl, hrest, hcached, hid, hmissing⟩
    · exact hserved fun x hx => absurd hx List.not_mem_nil
    · obtain ⟨m₁, hamid, halong⟩ := along_cons.mp halong
      have hlater₁ := along_later halong fun x hx => (hcounts hrest x hx).1
      have hids₁ := Nat.le_trans hlater₁.issued_le hids
      rw [htracks.chunkIds] at hid
      by_cases hnone : race = .finished (.ok none)
      · subst hnone
        obtain ⟨rfl, rfl⟩ := Prod.mk.inj (hmissing rfl)
        have hindex : r.index < (pieces source.delivered).length := by
          rw [← hlength]
          exact (List.getElem?_eq_some_iff.mp hid).1
        rcases h.fetched hs hunmixed hamid hids₁ hid (List.getElem?_eq_getElem hindex) with hrace | ⟨-, hdeleted⟩
        · cases hrace
        · exact ⟨.gone hcached rfl hamid hdeleted rfl, .failed rfl (hdeleted.later hlater₁)⟩
      · refine hserved (List.forall_mem_cons.mpr ⟨?_, fun x hx => (hcounts hrest x hx).2⟩)
        intro _ i chunk hi hchunk
        exact (h.fetched hs hunmixed hamid hids₁ hi hchunk).resolve_right fun hgone => hnone hgone.1

/-- **A seek amid other operations** asks nothing, and leaves the reader a cursor, or failed. -/
theorem Watches.seek (hw : Watches content token ids file r m) (offset : Int) (whence : Whence) :
    Watches content token ids file (r.seek offset whence).2 m := by
  cases hw with
  | failed hstate hdeleted =>
    rw [Reader.seek_failed hstate]
    exact .failed hstate hdeleted
  | @tracks c htracks hopen hdrained =>
    refine .tracks (htracks.seek_tracks offset whence).2 ?_ ?_
    · unfold Cursor.seek
      split
      · exact hopen
      · simp only
        split <;> exact hopen
    · unfold Cursor.seek
      split
      · exact hdrained
      · simp only
        split
        · exact fun hno => nomatch hno
        · exact hdrained

/-- **Reads and seeks amid other operations**, one after another. -/
theorem Watches.session {ops : List CursorOp} {replies : List CursorReply} (hops : .close ∉ ops)
    (hw : Watches source.delivered token stored.reader.chunkIds file r m)
    (h : Opened s₀ source file stored m) (hs : s₀.faults = .none) (hunmixed : s₀.Unmixed)
    (hrun : (r.session ops).Ends es (replies, r')) (halong : Along Amid m es m')
    (hids : m'.system.store.issued ≤ Uuid.issueCount) :
    Watches source.delivered token stored.reader.chunkIds file r' m' := by
  induction ops generalizing r m es replies with
  | nil =>
    obtain ⟨rfl, heq⟩ := hrun
    obtain ⟨-, rfl⟩ := Prod.mk.inj heq
    rw [along_nil] at halong
    rw [halong]
    exact hw
  | cons op ops ih =>
    rw [List.mem_cons, not_or] at hops
    have hlater := fun {r : Reader} {es : List Exchange} {answer : List CursorReply × Reader} {m : Moment}
      (hends : (r.session ops).Ends es answer) (halong : Along Amid m es m') =>
        along_later halong ((Reader.session_asks ops r).queries hends)
    obtain ⟨es₁, es₂, reply, r₁, rest, rfl, hop, hrest, rfl⟩ := Reader.ends_session_cons.mp hrun
    obtain ⟨m₁, halong₁, halong₂⟩ := along_append.mp halong
    have hlater₂ := hlater hrest halong₂
    cases op with
    | read buffer =>
      obtain ⟨result, hread, rfl⟩ := Reader.ends_perform_read.mp hop
      have hlater₁ := along_later halong₁ ((r.read_asks buffer.length).queries hread)
      have hw₁ := (hw.read h hs hunmixed hread halong₁ (Nat.le_trans hlater₂.issued_le hids)).2
      exact ih hops.2 hw₁ (h.later hlater₁) hrest halong₂
    | seek offset whence =>
      obtain ⟨rfl, heq⟩ := hop
      obtain ⟨-, rfl⟩ := Prod.mk.inj heq
      rw [along_nil] at halong₁
      subst halong₁
      exact ih hops.2 (hw.seek offset whence) h hrest halong₂
    | close => exact absurd rfl hops.1

/-- **A reader is safe while others write.** A file was saved and opened, and its reader has been read and
moved any number of times, while any operations have run on any files. The next read hands out the bytes of
the file that stand at its position, or finds the end where it is, or fails with `notFound`; that takes a
delete of the file that was committed and a chunk that is not at hand, and whatever is read or sought
afterwards fails in the same way. -/
theorem read_amid {front : List CursorOp} {replies : List CursorReply} {es₁ : List Exchange} {m₁ : Moment}
    (h : Opened s₀ source file stored m) (hs : s₀.faults = .none) (hunmixed : s₀.Unmixed)
    (hfront : .close ∉ front) (hbefore : (stored.reader.session front).Ends es₁ (replies, r))
    (halong₁ : Along Amid m es₁ m₁) (hread : (r.read room).Ends es (result, r')) (halong : Along Amid m₁ es m')
    (hids : m'.system.store.issued ≤ Uuid.issueCount) :
    WatchedRead source.delivered file r room m₁ es r' result ∧
      (result = .error .notFound → ∀ later es' replies' r'', (r'.session later).Ends es' (replies', r'') →
        es' = [] ∧ r''.state = .failed .notFound ∧ ∀ reply ∈ replies', reply.answer.Fails .notFound) := by
  have hlater₁ := along_later halong₁ ((Reader.session_asks front _).queries hbefore)
  have hlater := along_later halong ((r.read_asks room).queries hread)
  have hids₁ := Nat.le_trans hlater.issued_le hids
  have hids₀ := Nat.le_trans hlater₁.issued_le hids₁
  obtain ⟨rows, token, -, hreader, -⟩ := h.chunks hs hunmixed hids₀
  have hstart : Watches source.delivered token stored.reader.chunkIds file stored.reader m := by
    refine .tracks (c := .start) ?_ rfl fun hno => absurd hno Bool.false_ne_true
    rw [hreader]
    exact Reader.new_tracks source.delivered token (rows.map (·.id))
  have hw := hstart.session hfront h hs hunmixed hbefore halong₁ hids₁
  have hwatched := (hw.read (h.later hlater₁) hs hunmixed hread halong hids).1
  refine ⟨hwatched, ?_⟩
  rintro rfl later es' replies' r'' hrun
  have hstate : r'.state = .failed .notFound := by
    cases hwatched with
    | gone _ _ _ _ hstate => exact hstate
    | failed hstate _ _ hsame =>
      rw [hsame]
      exact hstate
  exact Reader.session_failed hstate hrun

/-- A file of one byte is deleted between its opening and the first read: the read fails with `notFound`, and
so does a seek after it. -/
theorem read_amid_deleted_file :
    let es : List Exchange :=
      [⟨.race .own (.findChunk (.issue 1)), .finished (.ok none)⟩, ⟨.count .fetchChunk false, ()⟩]
    ∃ stored m m' r', Opened .empty [.bytes [97]] (.issue 0) stored m ∧ Along Amid m es m' ∧
      WatchedRead [97] (.issue 0) stored.reader 1 m es r' (.error .notFound) ∧
      (r'.seek 0 .start).1 = .error .notFound := by
  intro es
  -- the file is saved and opened
  have h : System.Run ⟨.empty, []⟩ [] ⟨.empty, []⟩ := .refl
  replace h := h.step (.start _ (.save .own [.bytes [97]]))
  replace h := h.step (.answer (i := 0) rfl ⟨rfl, rfl⟩)
  replace h := h.step (.answer (i := 0) rfl ⟨rfl, rfl⟩)
  replace h := h.step (.answer (i := 0) rfl ⟨rfl, rfl⟩)
  replace h := h.step (.answer (i := 0) rfl ⟨rfl, rfl⟩)
  replace h := h.step (.answer (i := 0) rfl ⟨rfl, rfl⟩)
  replace h := h.step (.answer (i := 0) rfl ⟨rfl, rfl⟩)
  replace h := h.step (.answer (i := 0) rfl ⟨rfl, rfl⟩)
  replace h := h.step (.answer (i := 0) (a := ()) rfl rfl)
  replace h := h.step (.start _ (.open .own (.issue 0)))
  replace h := h.step (.answer (i := 1) rfl ⟨rfl, rfl⟩)
  replace h := h.step (.answer (i := 1) (a := ()) rfl rfl)
  have hopened : Opened .empty [.bytes [97]] (.issue 0) _ ⟨[0, 1], _⟩ :=
    ⟨h, ⟨.own, 0, _, rfl⟩, ⟨.own, 1, _, rfl⟩⟩
  -- then it is deleted
  have hlater := (fun {order : List Nat} {σ : System} (_ : System.Run ⟨.empty, []⟩ order σ) =>
    (.refl : System.Run σ [] σ)) h
  replace hlater := hlater.step (.start _ (.delete (.issue 0)))
  replace hlater := hlater.step (.answer (i := 2) rfl ⟨rfl, rfl⟩)
  replace hlater := hlater.step (.answer (i := 2) rfl ⟨rfl, rfl⟩)
  replace hlater := hlater.step (.answer (i := 2) rfl ⟨rfl, rfl⟩)
  replace hlater := hlater.step (.answer (i := 2) rfl ⟨rfl, rfl⟩)
  have hfetch : Amid (.race .own (.findChunk (.issue 1))) ⟨[0, 1], _⟩ (.finished (.ok none)) ⟨[0, 1, 2], _⟩ :=
    ⟨⟨[0, 1, 2], _⟩, _, ⟨_, hlater, rfl⟩, ⟨rfl, rfl⟩, rfl⟩
  have hcount : ∀ m, Amid (.count .fetchChunk false) m () m := fun m => ⟨m, _, .refl _, rfl, rfl⟩
  have halong : Along Amid ⟨[0, 1], _⟩ es ⟨[0, 1, 2], _⟩ := .cons hfetch (.cons (hcount _) (.nil _))
  -- the read that comes now
  let r := Reader.new .own 1 [.issue 1]
  have hread : (r.read 1).Ends es (.error .notFound, { r with state := .failed .notFound }) :=
    ⟨_, _, rfl, _, _, rfl, rfl, rfl⟩
  have hids : ∀ {σ : System}, σ.store.issued = 2 → σ.store.issued ≤ Uuid.issueCount := fun h => by
    rw [h]
    decide
  have hfront : CursorOp.close ∉ [] := List.not_mem_nil
  have hbefore : (r.session []).Ends [] ([], r) := ⟨rfl, rfl⟩
  obtain ⟨hwatched, hfails⟩ := read_amid hopened rfl Store.Agrees.empty.unmixed hfront hbefore (Along.nil _) hread
    halong (hids rfl)
  obtain ⟨-, -, hseek⟩ := hfails rfl [.seek 0 .start] [] _ _ ⟨rfl, rfl⟩
  exact ⟨_, _, _, _, hopened, halong, hwatched, hseek _ List.mem_cons_self⟩

end Memory
end ChunkVault
