/-
# ChunkVault.Proofs.Memory.Downloading -- downloads while others write

A file was saved, and is downloaded while operations begin, go on and are decided, on any files. As long as it
is not deleted, its row and its chunks stay as they were uploaded (`Saved.held`), so whatever a download asks
for is found (`Saved.serves`, `Saved.finds`), and the range that was asked for is what comes
(`download_amid`).
-/
import ChunkVault.Proofs.Http.Download
import ChunkVault.Proofs.Memory.Watching

namespace ChunkVault

open Program

/-! ## What a download asks -/

theorem Http.Body.receive_looks (body : Http.Body) : body.receive.Asks Query.Looks := by
  cases body with
  | text content => exact trivial
  | stream content => exact (Reader.Stream.collectWithin_asks _ _ _).mono fun _ hq => hq.looks
  | counters => exact trivial

theorem Http.receive_looks {shutdown : Token} {r : Http.Request} {file : Uuid} (h : r.Gets file) :
    (Http.receive shutdown r).Asks Query.Looks := by
  unfold Http.receive
  rw [Http.respond_get h]
  refine Asks.bind (Asks.bind (open_asks_only trivial fun _ => trivial) fun o => ?_) fun response => ?_
  · exact trivial
  · exact (Http.Body.receive_looks _).bind fun _ => trivial

namespace Memory

/-! ## Answers amid other operations -/

/-- A look is answered, and issues no id. -/
theorem exists_looked {q : Query} (hq : q.Looks) (s : Store) :
    ∃ a s', Store.Served q s a s' ∧ s'.issued = s.issued := by
  cases q with
  | race token q =>
    refine ⟨_, _, ⟨rfl, rfl⟩, ?_⟩
    cases q with
    | findChunk id => rw [Store.serve_findChunk]
    | findFile id => rfl
    | _ => cases hq
  | count method failed => exact ⟨(), s, rfl, rfl⟩
  | _ => cases hq

/-- **Whatever only looks comes to its end**, also if nothing else goes on meanwhile. -/
theorem exists_amid {α : Type} {p : Program α} (hp : p.Asks Query.Looks) (m : Moment) :
    ∃ es result s', p.Ends es result ∧ Along Amid m es ⟨m.order, ⟨s', m.system.tasks⟩⟩ ∧
      s'.issued = m.system.store.issued := by
  induction p generalizing m with
  | done a => exact ⟨[], a, m.system.store, ⟨rfl, rfl⟩, .nil m, rfl⟩
  | ask q resume ih =>
    obtain ⟨a, s₁, hserved, hissued₁⟩ := exists_looked hp.1 m.system.store
    have hamid : Amid q m a ⟨m.order, ⟨s₁, m.system.tasks⟩⟩ := ⟨m, s₁, .refl m, hserved, rfl⟩
    obtain ⟨es, result, s', hends, halong, hissued⟩ := ih a (hp.2 a) ⟨m.order, ⟨s₁, m.system.tasks⟩⟩
    exact ⟨_, result, s', ⟨a, es, rfl, hends⟩, .cons hamid halong, hissued.trans hissued₁⟩

/-! ## A file that was saved -/

/-- A run in which a file was saved from this source. -/
structure Saved (s₀ : Store) (source : Source) (file : Uuid) (m : Moment) : Prop where
  run : System.Run ⟨s₀, []⟩ m.order m.system
  saved : ∃ token, m.Answered (.save token source) (.ok file)

variable {s₀ : Store} {source : Source} {file : Uuid} {m m' : Moment} {rows : List ChunkRecord}

/-- The rows of a file that stays are the same at all later moments. -/
def Moment.Keeps (m : Moment) (file : Uuid) (rows : List ChunkRecord) : Prop :=
  ∀ m', m.Later m' → m'.system.store.issued ≤ Uuid.issueCount → ¬m'.Deleted file →
    m'.system.store.faults = .none ∧ m'.system.store.tables.untimed.Held file rows

/-- The rows of an upload are those of its source. -/
theorem Decides.exists_uploaded {t : Tables} {token : Token} {change : Change}
    (h : Decides t (.save token source) (.ok file) change) :
    ∃ rows, change = .upload file rows ∧ RowsOf file (pieces source.delivered) rows := by
  cases h with
  | saved hend hrows => exact ⟨_, rfl, hrows⟩

/-- **The rows of a file that was saved stay as they are**, until a delete of the file is committed. -/
theorem Saved.held (h : Saved s₀ source file m) (hs : s₀.faults = .none) (hunmixed : s₀.Unmixed) :
    ∃ rows, RowsOf file (pieces source.delivered) rows ∧ m.Keeps file rows := by
  obtain ⟨ds, hds, hlinear, hapart⟩ := h.run.linear hs
  obtain ⟨token, hsaved⟩ := h.saved
  obtain ⟨i, change, hsave⟩ := exists_decision hlinear hsaved
  obtain ⟨t, hdecides⟩ := hlinear.decided.exists_decides hsave
  have hdecides : Decides t (.save token source) (.ok file) change := hdecides
  obtain ⟨rows, rfl, hrows⟩ := hdecides.exists_uploaded
  refine ⟨rows, hrows, fun m' hlater hids hstays => ?_⟩
  obtain ⟨new, hrun, horder⟩ := hlater
  obtain ⟨more, rfl, hlinear', hapart'⟩ := hlinear.run hrun
  have hfresh := (hapart' hids (hapart hunmixed (Nat.le_trans hrun.issued_le hids))).fresh
  refine ⟨hlinear'.calm.faults, ?_⟩
  have hdecided : (ds ++ more).map (·.task) = m'.order := by rw [List.map_append, hds, horder]
  obtain ⟨before, after, rfl⟩ := List.append_of_mem hsave
  rw [List.append_assoc, List.cons_append] at hlinear' hfresh hdecided
  -- nothing that was decided removes the file
  have hnot : ∀ e ∈ after ++ more, e.change ≠ .remove file := by
    intro e he hchange
    have hmem := List.mem_append_right before
      (List.mem_cons_of_mem (Decision.mk i (.save token source) (.ok file) (.upload file rows)) he)
    obtain ⟨t', hdelete⟩ := hlinear'.decided.exists_decides hmem
    rw [hchange] at hdelete
    exact hstays (deleted_of_decided hlinear' hdecided hmem hdelete.delete_of_remove)
  obtain ⟨rows', heq, -, hheld⟩ :=
    (hlinear'.decided.acknowledged hfresh).saves before (after ++ more) i token source file _ rfl hnot
  cases heq
  exact hheld

/-- A store that holds a file answers with its chunks and its row. -/
theorem Tables.Held.found {s s' : Store} {content : Bytes} (hheld : s.tables.untimed.Held file rows)
    (hfaults : s.faults = .none) (hrows : RowsOf file (pieces content) rows) {q : Query} {a : q.Answer}
    (hserved : Store.Served q s a s') (token : Token) :
    Exchange.Serves token (rows.map (·.id)) (pieces content) ⟨q, a⟩ ∧
      Exchange.Finds file content.length (rows.map (·.id)) ⟨q, a⟩ := by
  cases q with
  | race token' q =>
    obtain ⟨rfl, -⟩ := hserved
    cases q with
    | findChunk id =>
      refine ⟨fun _ i chunk hid hchunk => ?_, trivial⟩
      obtain ⟨row, hrow, rfl, rfl⟩ := hrows.exists_row hid hchunk
      have hchunk : s.tables.chunk? row.id = some row := hheld.chunk? row hrow
      rw [Store.findChunk_quiet hfaults, hchunk]
      rfl
    | findFile id =>
      refine ⟨trivial, ?_⟩
      rintro rfl
      obtain ⟨data, hfile⟩ := hheld.file?
      rw [Tables.untimed_file?] at hfile
      obtain ⟨row, hrow, -⟩ := Option.map_eq_some_iff.mp hfile
      have huntimed : s.tables.untimed.file? id = some row.untimed := by
        rw [Tables.untimed_file?, hrow]
        rfl
      obtain ⟨hsize, hids⟩ := hheld.row hrows huntimed
      exact ⟨row, congrArg (fun f => Race.finished (Except.ok f)) hrow, hsize, hids⟩
    | _ => exact ⟨trivial, trivial⟩
  | _ => exact ⟨trivial, trivial⟩

/-- **Whatever a download asks for is found**, if the file is still there at its end. -/
theorem Moment.Keeps.found (h : m.Keeps file rows) {content : Bytes}
    (hrows : RowsOf file (pieces content) rows) {es : List Exchange} (halong : Along Amid m es m')
    (hlooks : ∀ x ∈ es, x.query.Looks) (hids : m'.system.store.issued ≤ Uuid.issueCount)
    (hstays : ¬m'.Deleted file) (token : Token) :
    ∀ x ∈ es, x.Serves token (rows.map (·.id)) (pieces content) ∧
      x.Finds file content.length (rows.map (·.id)) := by
  -- along the queries; a file that is there at the end is there at each of them
  induction halong with
  | nil => exact fun x hx => absurd hx List.not_mem_nil
  | @cons q a m₀ m₁ m₂ es hamid hrest ih =>
    obtain ⟨hlook, hlooks⟩ := List.forall_mem_cons.mp hlooks
    have hlater := Amid.later hamid hlook
    have hend := along_looks hrest hlooks
    have hrest := ih (fun m₃ hlater₃ => h m₃ (hlater.trans hlater₃)) hlooks hids hstays
    refine List.forall_mem_cons.mpr ⟨?_, hrest⟩
    obtain ⟨m₃, s', hothers, hserved, rfl⟩ := hamid
    have hserving : m₃.Later ⟨m₃.order, ⟨s', m₃.system.tasks⟩⟩ :=
      Amid.later ⟨m₃, s', .refl m₃, hserved, rfl⟩ hlook
    have hafter := hserving.trans hend
    obtain ⟨hfaults, hheld⟩ := h m₃ hothers (Nat.le_trans hafter.issued_le hids) fun hdeleted =>
      hstays (hdeleted.later hafter)
    exact hheld.found hfaults hrows hserved token

/-! ## Downloads -/

/-- What a client receives who sends a request at one moment, and has the whole response at another one. -/
def Received (shutdown : Token) (r : Http.Request) (m : Moment) (response : Http.Response)
    (got : List Bytes × Option StorageError) (m' : Moment) : Prop :=
  ∃ es, (Http.receive shutdown r).Ends es (response, got) ∧ Along Amid m es m'

/-- **A download honours the range that was asked for.** A file was saved and is still there, and a client asks
for it, while any operations run on any files and no token fires. The client receives a response; and unless the
file is deleted before its end, that is the whole content, the span of it that was asked for, or word that there
is no such span: as many bytes as were announced, and no failure. -/
theorem download_amid {shutdown : Token} {r : Http.Request} (h : Saved s₀ source file m)
    (hs : s₀.faults = .none) (hunmixed : s₀.Unmixed) (hlen : source.delivered.length ≤ maxPosition)
    (hthere : ¬m.Deleted file) (hids : m.system.store.issued ≤ Uuid.issueCount) (hget : r.Gets file) :
    (∃ response got m', Received shutdown r m response got m' ∧ ¬m'.Deleted file ∧
        m'.system.store.issued ≤ Uuid.issueCount) ∧
      ∀ response got m', Received shutdown r m response got m' → ¬m'.Deleted file →
        m'.system.store.issued ≤ Uuid.issueCount → Http.Downloaded source.delivered r response got := by
  have hlooks := @Http.receive_looks shutdown r file hget
  constructor
  · obtain ⟨es, ⟨response, got⟩, s', hends, halong, hissued⟩ := exists_amid hlooks m
    exact ⟨response, got, _, ⟨es, hends, halong⟩, hthere, Nat.le_trans (Nat.le_of_eq hissued) hids⟩
  · rintro response got m' ⟨es, hends, halong⟩ hstays hids'
    obtain ⟨rows, hrows, hkeeps⟩ := h.held hs hunmixed
    have hfound := hkeeps.found hrows halong (hlooks.queries hends) hids' hstays shutdown
    exact Http.receive_downloaded hget hrows.length_ids hlen hends (fun x hx => (hfound x hx).1)
      fun x hx => (hfound x hx).2

/-- A file of three bytes is downloaded from its second byte on, by its id as it is usually written. -/
theorem download_amid_from_second_byte :
    let r : Http.Request := ⟨"GET", "/files/5f2c9a7b-e1d8-4c36-8000-000000000000", [("range", "bytes=1-")], []⟩
    ∃ m m' response got, Saved .empty [.bytes [97, 98, 99]] (.issue 0) m ∧ r.Gets (.issue 0) ∧
      Received .own r m response got m' ∧ Http.Sent response got 206 2 (some "bytes 1-2/3") [98, 99] := by
  intro r
  have hget : r.Gets (.issue 0) :=
    ⟨rfl, "5f2c9a7b-e1d8-4c36-8000-000000000000", "5f2c9a7b-e1d8-4c36-8000-000000000000", by decide, by decide +kernel,
      by decide⟩
  -- the file is saved
  have h : System.Run ⟨.empty, []⟩ [] ⟨.empty, []⟩ := .refl
  replace h := h.step (.start _ (.save .own [.bytes [97, 98, 99]]))
  replace h := h.step (.answer (i := 0) rfl ⟨rfl, rfl⟩)
  replace h := h.step (.answer (i := 0) rfl ⟨rfl, rfl⟩)
  replace h := h.step (.answer (i := 0) rfl ⟨rfl, rfl⟩)
  replace h := h.step (.answer (i := 0) rfl ⟨rfl, rfl⟩)
  replace h := h.step (.answer (i := 0) rfl ⟨rfl, rfl⟩)
  replace h := h.step (.answer (i := 0) rfl ⟨rfl, rfl⟩)
  replace h := h.step (.answer (i := 0) rfl ⟨rfl, rfl⟩)
  replace h := h.step (.answer (i := 0) (a := ()) rfl rfl)
  have hsaved : Saved .empty [.bytes [97, 98, 99]] (.issue 0) ⟨[0], _⟩ := ⟨h, ⟨.own, 0, _, rfl⟩⟩
  have hthere : ∀ {σ : System} {op : Operation} {past : List Exchange} {rest},
      σ.tasks = [⟨op, past, rest⟩] → op ≠ .delete (.issue 0) → ¬Moment.Deleted ⟨[0], σ⟩ (.issue 0) := by
    rintro σ op past rest htasks hop ⟨i, hi, past', rest', htask⟩
    obtain rfl := List.mem_singleton.mp hi
    rw [htasks] at htask
    cases htask
    exact hop rfl
  have hids : ∀ {σ : System}, σ.store.issued = 2 → σ.store.issued ≤ Uuid.issueCount := fun h => by
    rw [h]
    decide
  obtain ⟨⟨response, got, m', hreceived, hstays, hids'⟩, hright⟩ :=
    @download_amid _ _ _ _ .own r hsaved rfl Store.Agrees.empty.unmixed (by decide) (hthere rfl (by rintro ⟨⟩)) (hids rfl)
      hget
  refine ⟨_, m', response, got, hsaved, hget, hreceived, ?_⟩
  have hspan : Http.ByteRange.parse? "bytes=1-" 3 = some (.span 1 2) := by decide
  cases hright response got m' hreceived hstays hids' with
  | whole hignored hsent =>
    have hnone := hignored "bytes=1-" rfl (by decide)
    cases hspan.symm.trans hnone
  | nothing hvalue hvisible hrange hsent =>
    obtain rfl := Option.some.inj hvalue
    cases hspan.symm.trans hrange
  | span hvalue hvisible hrange hsent =>
    obtain rfl := Option.some.inj hvalue
    cases hspan.symm.trans hrange
    exact hsent

end Memory
end ChunkVault
