/-
# ChunkVault.Proofs.Sql.Validity -- valid rows over either store

A store on a database looks at two calls before it asks the database: a chunk that is empty and a size that is negative
are refused, and the database is not asked. So every statement that reaches the database asks for valid rows
(`Store.does_db`), and a database that makes up no rows holds none but valid ones, whatever is called in how many
transactions at once (`Store.valid_doesAll`). What is asked of the database is said by `MakesUpNoRows`: after a command
it holds what it held before, and the row that the statement has written. A relational database is one of those
(`Relational.makesUpNoRows`).

A store in memory has valid rows under valid calls, and under no others: `rows_valid` puts the two side by side.
-/
import ChunkVault.Proofs.Memory.Validity
import ChunkVault.Proofs.Sql.Relational

namespace ChunkVault.Sql

/-! ## Databases that make up no rows -/

/-- The statement writes this row: it inserts it, or makes it of a row that is held. -/
inductive Statement.Writes (held : StoredRow → Prop) : Statement → StoredRow → Prop
  | insertFile (f : FileRecord) : Writes held (.insertFile f) (.file f)
  | insertChunk (c : ChunkRecord) (createdAt updatedAt : Timestamp) :
      Writes held (.insertChunk c createdAt updatedAt) (.chunk c)
  | finishFile {f : FileRecord} (hf : held (.file f)) (size : Int) (chunks : List Uuid) (now : Timestamp) :
      Writes held (.finishFile f.id size chunks now)
        (.file { f with size := size, chunkIds := chunks, updatedAt := now })
  | setMetadata {f : FileRecord} (hf : held (.file f)) (data : Option Bytes) (now : Timestamp) :
      Writes held (.setMetadata f.id data now) (.file { f with metadata := data, updatedAt := now })

/-- The database makes up no rows: of what it holds after a command, in any transaction or committed, it held
everything before that the statement has not written. -/
def MakesUpNoRows {δ : Type} (db : Database δ) (held : δ → StoredRow → Prop) : Prop :=
  ∀ c d row, held (db c d).2 row → held d row ∨ ∃ tx s, c = .run tx s ∧ s.Writes (held d) row

/-- A statement that writes valid rows only, if all rows are valid that are held. -/
def Statement.Valid : Statement → Prop
  | insertFile f => 0 ≤ f.size
  | insertChunk c _ _ => c.bytes ≠ []
  | finishFile _ size _ _ => 0 ≤ size
  | _ => True

/-- A command whose statement is valid, if it has one. -/
def Command.Valid : Command → Prop
  | run _ s => s.Valid
  | _ => True

/-- A valid command leaves valid rows. -/
theorem MakesUpNoRows.valid {δ : Type} {db : Database δ} {held : δ → StoredRow → Prop}
    (hdb : MakesUpNoRows db held) {c : Command} (hc : c.Valid) {d : δ} (hd : ∀ row, held d row → row.Valid) :
    ∀ row, held (db c d).2 row → row.Valid := by
  intro row hrow
  rcases hdb c d row hrow with hheld | ⟨tx, s, rfl, hwrites⟩
  · exact hd row hheld
  · cases hwrites with
    | insertFile f => exact hc
    | insertChunk c createdAt updatedAt => exact hc
    | finishFile hf size chunks now => exact hc
    | @setMetadata f hf data now => exact hd (.file f) hf

/-! ## Calls -/

/-- What can be done to a store: a call, within a transaction or outside of any, or letting go of a transaction. -/
inductive Deed where
  | call (request : Request)
  | drop (tx : TxId)

namespace Store

variable {δ : Type} (db : Database δ)

/-- What becomes of a store by a deed. -/
def does (s : Store δ) : Deed → Store δ
  | .call q => (s.serve db q).2
  | .drop tx => s.discard db tx

/-- What becomes of a store by several deeds, one after another. -/
def doesAll (s : Store δ) (deeds : List Deed) : Store δ := deeds.foldl (does db) s

/-- **An empty chunk is refused**, and the database is not asked. -/
theorem serve_insertChunk_empty (s : Store δ) (tx : TxId) (file : Uuid) :
    s.serve db (.insertChunk tx file []) =
      (.error (.unknown "save file chunk" ["validation error: chunk must not be empty"]), s.advance s.db) := rfl

/-- **A negative size is refused**, and the database is not asked. -/
theorem serve_finishFile_negative (s : Store δ) (tx : TxId) (file : Uuid) {size : Int} (hsize : size < 0)
    (ids : List Uuid) :
    s.serve db (.finishFile tx file size ids) =
      (.error (.unknown "update file size and chunk_ids" ["validation error: size must be non-negative"]),
        s.tick s.db) := by
  show s.finishFile db tx file size ids = _
  unfold finishFile File.finish
  rw [if_pos hsize]
  rfl

/-- **Every command that reaches the database is valid**, and at most one does for every deed. -/
theorem does_db (s : Store δ) (deed : Deed) :
    (s.does db deed).db = s.db ∨ ∃ c : Command, c.Valid ∧ (s.does db deed).db = (db c s.db).2 := by
  cases deed with
  | drop tx => exact .inr ⟨.discard tx, trivial, rfl⟩
  | call q =>
    cases q with
    | begin => exact .inr ⟨.begin s.nextTx, trivial, rfl⟩
    | commit tx => exact .inr ⟨.commit tx, trivial, rfl⟩
    | rollback tx => exact .inr ⟨.rollback tx, trivial, rfl⟩
    | insertFile tx => exact .inr ⟨.run (some tx) (.insertFile ⟨s.nextId, 0, [], none, s.now, s.now⟩), Int.le_refl 0, rfl⟩
    | insertChunk tx file bytes =>
      cases bytes with
      | nil => exact .inl (congrArg (Store.db ∘ Prod.snd) (s.serve_insertChunk_empty db tx file))
      | cons b bytes =>
        exact .inr ⟨.run (some tx) (.insertChunk ⟨s.nextId, file, b :: bytes⟩ s.now s.now),
          List.cons_ne_nil b bytes, rfl⟩
    | finishFile tx file size ids =>
      by_cases hsize : size < 0
      · exact .inl (congrArg (Store.db ∘ Prod.snd) (s.serve_finishFile_negative db tx file hsize ids))
      · refine .inr ⟨.run (some tx) (.finishFile file size ids s.now), Int.not_lt.mp hsize, ?_⟩
        show (s.finishFile db tx file size ids).2.db = _
        unfold finishFile File.finish
        rw [if_neg hsize]
        rfl
    | deleteChunks tx file => exact .inr ⟨.run (some tx) (.deleteChunks file), trivial, rfl⟩
    | deleteFile tx file => exact .inr ⟨.run (some tx) (.deleteFile file), trivial, rfl⟩
    | findFile id => exact .inr ⟨.run none (.selectFile id), trivial, rfl⟩
    | findChunk id => exact .inr ⟨.run none (.selectBytes id), trivial, rfl⟩
    | updateMetadata id data => exact .inr ⟨.run none (.setMetadata id data s.now), trivial, rfl⟩

/-- **Whatever is done leaves valid rows**, in a database that makes up none. -/
theorem valid_doesAll {held : δ → StoredRow → Prop} (hdb : MakesUpNoRows db held) {s : Store δ}
    (hs : ∀ row, held s.db row → row.Valid) (deeds : List Deed) :
    ∀ row, held (s.doesAll db deeds).db row → row.Valid := by
  induction deeds generalizing s with
  | nil => exact hs
  | cons deed deeds ih =>
    refine ih (s := s.does db deed) ?_
    rcases s.does_db db deed with hsame | ⟨c, hc, hnext⟩
    · rw [hsame]
      exact hs
    · rw [hnext]
      exact hdb.valid hc hs

end Store

/-! ## A relational database -/

/-- All rows of both tables. -/
def Rows.all (r : Rows) : List StoredRow := r.files.map .file ++ r.chunks.map fun c => .chunk c.chunk

theorem Rows.mem_all {r : Rows} {row : StoredRow} :
    row ∈ r.all ↔ (∃ f ∈ r.files, .file f = row) ∨ ∃ c ∈ r.chunks, .chunk c.chunk = row := by
  rw [Rows.all, List.mem_append, List.mem_map, List.mem_map]

/-- The database holds the row, committed or in the copy of its transaction. -/
def Relational.Holds (d : Relational) (row : StoredRow) : Prop :=
  row ∈ d.committed.all ∨ ∃ tx rows, d.opened = some (tx, rows) ∧ row ∈ rows.all

/-- A statement leaves rows that were there, and the one that it has written. -/
theorem Rows.mem_execute {r r' : Rows} {s : Statement} {reply : Reply} (h : r.execute s = .ok (reply, r'))
    {row : StoredRow} (hrow : row ∈ r'.all) : row ∈ r.all ∨ s.Writes (· ∈ r.all) row := by
  have hupdate : ∀ id (change : FileRecord → FileRecord), row ∈ (r.updateFile id change).all →
      row ∈ r.all ∨ ∃ f ∈ r.files, f.id = id ∧ row = .file { change f with id := f.id } := by
    intro id change hrow
    rcases mem_all.mp hrow with ⟨f, hf, rfl⟩ | ⟨c, hc, rfl⟩
    · obtain ⟨g, hg, rfl⟩ := List.mem_map.mp hf
      by_cases hid : g.id = id
      · exact .inr ⟨g, hg, hid, by rw [if_pos hid]⟩
      · exact .inl (mem_all.mpr (.inl ⟨g, hg, by rw [if_neg hid]⟩))
    · exact .inl (mem_all.mpr (.inr ⟨c, hc, rfl⟩))
  have hfewer : ∀ (fs : List FileRecord) (cs : List ChunkRow), fs.Sublist r.files → cs.Sublist r.chunks →
      (∃ f ∈ fs, .file f = row) ∨ (∃ c ∈ cs, .chunk c.chunk = row) → row ∈ r.all := by
    rintro fs cs hfs hcs (⟨f, hf, rfl⟩ | ⟨c, hc, rfl⟩)
    · exact mem_all.mpr (.inl ⟨f, hfs.subset hf, rfl⟩)
    · exact mem_all.mpr (.inr ⟨c, hcs.subset hc, rfl⟩)
  cases s with
  | insertFile f =>
    by_cases hused : f.id ∈ r.files.map (·.id)
    · cases (dif_pos hused).symm.trans h
    · cases (dif_neg hused).symm.trans h
      rcases mem_all.mp hrow with ⟨g, hg, rfl⟩ | hchunk
      · rcases List.mem_append.mp hg with hg | hg
        · exact .inl (mem_all.mpr (.inl ⟨g, hg, rfl⟩))
        · rw [List.mem_singleton.mp hg]
          exact .inr (.insertFile f)
      · exact .inl (mem_all.mpr (.inr hchunk))
  | insertChunk c createdAt updatedAt =>
    by_cases hused : c.id ∈ r.chunks.map (·.chunk.id)
    · cases (dif_pos hused).symm.trans h
    · by_cases howner : c.fileId ∈ r.files.map (·.id)
      · cases ((dif_neg hused).trans (dif_pos howner)).symm.trans h
        rcases mem_all.mp hrow with hfile | ⟨e, he, rfl⟩
        · exact .inl (mem_all.mpr (.inl hfile))
        · rcases List.mem_append.mp he with he | he
          · exact .inl (mem_all.mpr (.inr ⟨e, he, rfl⟩))
          · rw [List.mem_singleton.mp he]
            exact .inr (.insertChunk c createdAt updatedAt)
      · cases ((dif_neg hused).trans (dif_neg howner)).symm.trans h
  | finishFile id size chunks now =>
    cases h
    refine (hupdate id _ hrow).imp_right ?_
    rintro ⟨f, hf, rfl, rfl⟩
    exact .finishFile (mem_all.mpr (.inl ⟨f, hf, rfl⟩)) size chunks now
  | setMetadata id data now =>
    cases h
    refine (hupdate id _ hrow).imp_right ?_
    rintro ⟨f, hf, rfl, rfl⟩
    exact .setMetadata (mem_all.mpr (.inl ⟨f, hf, rfl⟩)) data now
  | selectFile id =>
    cases h
    exact .inl hrow
  | selectBytes id =>
    cases h
    exact .inl hrow
  | deleteChunks file =>
    cases h
    exact .inl (hfewer _ _ (List.Sublist.refl _) List.filter_sublist (mem_all.mp hrow))
  | deleteFile id =>
    cases h
    exact .inl (hfewer _ _ List.filter_sublist List.filter_sublist (mem_all.mp hrow))
  | schema change => cases h

/-- What a statement writes does not depend on what else is held. -/
theorem Statement.Writes.mono {held held' : StoredRow → Prop} (himp : ∀ row, held row → held' row) {s : Statement}
    {row : StoredRow} (h : s.Writes held row) : s.Writes held' row := by
  cases h with
  | insertFile f => exact .insertFile f
  | insertChunk c createdAt updatedAt => exact .insertChunk c createdAt updatedAt
  | finishFile hf size chunks now => exact .finishFile (himp _ hf) size chunks now
  | setMetadata hf data now => exact .setMetadata (himp _ hf) data now

namespace Relational

variable {d : Relational} {tx : TxId} {row : StoredRow}

theorem opened_of_copy? {rows : Rows} (h : d.copy? tx = some rows) : d.opened = some (tx, rows) := by
  unfold copy? at h
  split at h
  · next name rows' hopened =>
    split at h
    · next hname =>
      obtain rfl := Option.some.inj h
      rw [hopened, hname]
    · cases h
  · cases h

/-- What a command can make of the database. -/
inductive Executes (d : Relational) : Command → Relational → Prop
  | same (c : Command) : Executes d c d
  | begin (tx : TxId) : Executes d (.begin tx) { d with opened := some (tx, d.committed) }
  | commit {tx : TxId} {rows : Rows} (hopened : d.opened = some (tx, rows)) : Executes d (.commit tx) ⟨rows, none⟩
  | close (c : Command) : Executes d c { d with opened := none }
  | inside {tx : TxId} {s : Statement} {rows rows' : Rows} {reply : Reply} (hopened : d.opened = some (tx, rows))
      (hs : rows.execute s = .ok (reply, rows')) :
      Executes d (.run (some tx) s) { d with opened := some (tx, rows') }
  | outside {s : Statement} {rows' : Rows} {reply : Reply} (hs : d.committed.execute s = .ok (reply, rows')) :
      Executes d (.run none s) { d with committed := rows' }

theorem executes (c : Command) (d : Relational) : d.Executes c (execute c d).2 := by
  cases hreply : (execute c d).1 with
  | error e =>
    rw [execute_of_error hreply]
    exact .same c
  | ok reply =>
    revert hreply
    unfold execute
    split
    · split
      · exact fun _ => .begin _
      · exact nofun
    · split
      · next hcopy => exact fun _ => .commit (opened_of_copy? hcopy)
      · exact nofun
    · split
      · exact fun _ => .close _
      · exact nofun
    · split
      · exact fun _ => .close _
      · exact nofun
    · split
      · next hcopy =>
        split
        · next hs => exact fun _ => .inside (opened_of_copy? hcopy) hs
        · exact nofun
      · exact nofun
    · split
      · split
        · next hs => exact fun _ => .outside hs
        · exact nofun
      · exact nofun

/-- **A relational database makes up no rows.** -/
theorem makesUpNoRows : MakesUpNoRows execute Holds := by
  intro c d row hrow
  have hstep := executes c d
  generalize (execute c d).2 = d' at hrow hstep
  cases hstep with
  | same => exact .inl hrow
  | begin tx =>
    rcases hrow with hrow | ⟨_, _, hcopy, hrow⟩
    · exact .inl (.inl hrow)
    · cases hcopy
      exact .inl (.inl hrow)
  | @commit tx rows hopened =>
    rcases hrow with hrow | ⟨_, _, hnone, -⟩
    · exact .inl (.inr ⟨tx, rows, hopened, hrow⟩)
    · cases hnone
  | close =>
    rcases hrow with hrow | ⟨_, _, hnone, -⟩
    · exact .inl (.inl hrow)
    · cases hnone
  | @inside tx s rows rows' reply hopened hs =>
    rcases hrow with hrow | ⟨_, _, hcopy, hrow⟩
    · exact .inl (.inl hrow)
    · cases hcopy
      have hheld : ∀ row, row ∈ rows.all → d.Holds row := fun row hold => .inr ⟨tx, rows, hopened, hold⟩
      exact (Rows.mem_execute hs hrow).imp (hheld row) fun hwrites => ⟨_, s, rfl, hwrites.mono hheld⟩
  | @outside s rows' reply hs =>
    rcases hrow with hrow | hcopy
    · have hheld : ∀ row, row ∈ d.committed.all → d.Holds row := fun row hold => .inl hold
      exact (Rows.mem_execute hs hrow).imp (hheld row) fun hwrites => ⟨_, s, rfl, hwrites.mono hheld⟩
    · exact .inl (.inr hcopy)

end Relational

/-! ## Both stores -/

/-- **Rows are valid over a database whatever is called, and in memory as long as every call is valid.** This holds
of whatever is done in any number of transactions. A database that makes up no rows never comes to hold one that is
not valid: an empty chunk and a negative size are refused with an error, and the database stays as it was. In memory
both are accepted for every file that a transaction sees, and are there after the commit. -/
theorem rows_valid {δ : Type} {db : Database δ} {held : δ → StoredRow → Prop} (hdb : MakesUpNoRows db held) {d : δ}
    (hd : ∀ row, held d row → row.Valid) (deeds : List Deed) (inMemory : List Memory.Deed) :
    let s := (Store.new d).doesAll db deeds
    let m := Memory.Store.empty.doesAll inMemory
    (∀ row, held s.db row → row.Valid) ∧
    ((∀ q, .call q ∈ inMemory → q.Valid) → m.tables.Valid) ∧
    ∀ (tx : TxId) (file : Uuid) (q : Request),
      q = .insertChunk tx file [] ∨ (∃ size ids, size < 0 ∧ q = .finishFile tx file size ids) →
      ((∃ e, (s.serve db q).1 = .error e) ∧ (s.serve db q).2.db = s.db) ∧
      (m.faults = .none → m.Sees tx file →
        (∃ v, (m.serve q).1 = .ok v) ∧ ((m.serve q).2.serve (.commit tx)).1 = .ok () ∧
          ¬((m.serve q).2.serve (.commit tx)).2.tables.Valid) := by
  intro s m
  refine ⟨Store.valid_doesAll db hdb hd deeds, fun hvalid => (Memory.Store.Valid.empty.doesAll hvalid).tables, ?_⟩
  rintro tx file q (rfl | ⟨size, ids, hsize, rfl⟩)
  · refine ⟨?_, fun hf hsees => ?_⟩
    · rw [s.serve_insertChunk_empty db tx file]
      exact ⟨⟨_, rfl⟩, rfl⟩
    · obtain ⟨htaken, hcommit, hthere⟩ := Memory.Store.empty_chunk_accepted hf hsees
      refine ⟨⟨_, htaken⟩, hcommit, fun hvalid => ?_⟩
      exact (Memory.Tables.valid_iff.mp hvalid).2 _ hthere rfl
  · refine ⟨?_, fun hf hsees => ?_⟩
    · rw [s.serve_finishFile_negative db tx file hsize ids]
      exact ⟨⟨_, rfl⟩, rfl⟩
    · obtain ⟨htaken, hcommit, f, hthere, -, hnegative⟩ := Memory.Store.negative_size_accepted hf hsees size ids
      refine ⟨⟨_, htaken⟩, hcommit, fun hvalid => ?_⟩
      have hnonneg := (Memory.Tables.valid_iff.mp hvalid).1 f hthere
      omega

/-- One transaction with one file. In memory an empty chunk of it is taken and committed; over a relational database
it is refused, and so is the size -1, and what is committed then is valid. -/
theorem rows_valid_one_file :
    let began : List Memory.Deed := [.call .begin, .call (.insertFile 0)]
    let m := Memory.Store.empty.doesAll began
    let s := (Store.new Relational.empty).doesAll Relational.execute
      [.call .begin, .call (.insertFile 0), .call (.insertChunk 0 (.issue 0) []),
        .call (.finishFile 0 (.issue 0) (-1) []), .call (.commit 0)]
    (∀ row, ¬Relational.empty.Holds row) ∧ s.db.committed.files.length = 1 ∧ (∀ row ∈ s.db.committed.all, row.Valid) ∧
      m.tables.Valid ∧ ¬((m.serve (.insertChunk 0 (.issue 0) [])).2.serve (.commit 0)).2.tables.Valid := by
  intro began m s
  have hempty : ∀ row, ¬Relational.empty.Holds row := by
    rintro row (hrow | ⟨_, _, hopened, -⟩)
    · exact absurd hrow List.not_mem_nil
    · cases hopened
  have hcalls : ∀ q, .call q ∈ began → q.Valid := by
    intro q hq
    rcases List.mem_cons.mp hq with hbegin | hinsert
    · cases hbegin
      exact trivial
    · cases List.mem_singleton.mp hinsert
      exact trivial
  obtain ⟨hrows, hvalid, hothers⟩ :=
    rows_valid Relational.makesUpNoRows (fun row hrow => absurd hrow (hempty row)) _ began
  refine ⟨hempty, rfl, fun row hrow => hrows row (.inl hrow), hvalid hcalls, ?_⟩
  exact ((hothers 0 (.issue 0) _ (.inl rfl)).2 rfl ⟨by decide, by decide⟩).2.2

/-- **Rows of a store in memory are not valid after every commit**: an empty chunk and a negative size are both
accepted, and so is the commit. -/
theorem invalid_rows_committed :
    let s := Memory.Store.empty.doesAll [.call .begin, .call (.insertFile 0)]
    let t := (s.serve (.insertChunk 0 (.issue 0) [])).2
    let u := (t.serve (.finishFile 0 (.issue 0) (-1) [.issue 1])).2
    (s.serve (.insertChunk 0 (.issue 0) [])).1 = .ok (.issue 1) ∧
      (t.serve (.finishFile 0 (.issue 0) (-1) [.issue 1])).1 = .ok () ∧ (u.serve (.commit 0)).1 = .ok () ∧
      ⟨.issue 1, .issue 0, []⟩ ∈ (u.serve (.commit 0)).2.tables.chunks ∧
      (u.serve (.commit 0)).2.tables.files.map (·.size) = [-1] := by
  decide

end ChunkVault.Sql
