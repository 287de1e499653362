/-
# ChunkVault.Proofs.Sql.Relational -- a relational database

The two tables of the schema, with what the schema promises about them: the id is the key of a table, and
every chunk refers to a file that is there. The promises are part of `Rows`, so no statement can break them.
An insert that would is refused, and the deletion of a file takes its chunks with it. A statement answers
with rows or with the number of rows that it touched, and one that is refused changes nothing.

The database holds one transaction at a time, which works on a copy of the rows. A commit puts the copy in
the place of the rows, all at once, and a rollback forgets it. `Store.serve_insertFile` and its siblings say
what a store over this database makes of each call.
-/
import Mathlib.Data.List.Nodup
import ChunkVault.Sql.Store

namespace ChunkVault.Sql

/-! ## Rows -/

/-- A chunk as the database keeps it. -/
structure ChunkRow where
  chunk : ChunkRecord
  createdAt : Timestamp
  updatedAt : Timestamp
deriving DecidableEq

/-- The rows of both tables. -/
structure Rows where
  files : List FileRecord
  chunks : List ChunkRow
  /-- The id is the key of a file. -/
  fileKeys : (files.map (·.id)).Nodup
  /-- The id is the key of a chunk. -/
  chunkKeys : (chunks.map (·.chunk.id)).Nodup
  /-- Every chunk refers to a file that is there. -/
  owned : ∀ c ∈ chunks, c.chunk.fileId ∈ files.map (·.id)

namespace Rows

/-- No rows at all. -/
def empty : Rows := ⟨[], [], .nil, .nil, nofun⟩

/-- A list of keys with one more at its end. -/
theorem nodup_concat {keys : List Uuid} {key : Uuid} (h : keys.Nodup) (hnew : key ∉ keys) :
    (keys ++ [key]).Nodup :=
  List.nodup_append.mpr ⟨h, List.nodup_singleton key, fun _ ha _ hb heq =>
    hnew (List.mem_singleton.mp hb ▸ heq ▸ ha)⟩

/-- Inserts a file under a key that is not in use. -/
def insertFile (r : Rows) (f : FileRecord) (hnew : f.id ∉ r.files.map (·.id)) : Rows where
  files := r.files ++ [f]
  chunks := r.chunks
  fileKeys := by
    rw [List.map_append]
    exact nodup_concat r.fileKeys hnew
  chunkKeys := r.chunkKeys
  owned c hc := by
    rw [List.map_append]
    exact List.mem_append_left _ (r.owned c hc)

/-- Inserts a chunk of a file that is there under a key that is not in use. -/
def insertChunk (r : Rows) (c : ChunkRow) (hnew : c.chunk.id ∉ r.chunks.map (·.chunk.id))
    (howner : c.chunk.fileId ∈ r.files.map (·.id)) : Rows where
  files := r.files
  chunks := r.chunks ++ [c]
  fileKeys := r.fileKeys
  chunkKeys := by
    rw [List.map_append]
    exact nodup_concat r.chunkKeys hnew
  owned d hd := by
    rcases List.mem_append.mp hd with hd | hd
    · exact r.owned d hd
    · rwa [List.mem_singleton.mp hd]

/-- Changes the file of this id in its other columns. -/
def updateFile (r : Rows) (id : Uuid) (change : FileRecord → FileRecord) : Rows :=
  let files := r.files.map fun f => if f.id = id then { change f with id := f.id } else f
  have hids : files.map (·.id) = r.files.map (·.id) := by
    rw [List.map_map]
    refine List.map_congr_left fun f _ => ?_
    show FileRecord.id (if f.id = id then _ else f) = f.id
    split <;> rfl
  { files := files
    chunks := r.chunks
    fileKeys := hids ▸ r.fileKeys
    chunkKeys := r.chunkKeys
    owned := fun c hc => hids ▸ r.owned c hc }

/-- Deletes the chunks of a file. -/
def deleteChunks (r : Rows) (file : Uuid) : Rows where
  files := r.files
  chunks := r.chunks.filter (·.chunk.fileId ≠ file)
  fileKeys := r.fileKeys
  chunkKeys := r.chunkKeys.sublist (List.filter_sublist.map _)
  owned c hc := r.owned c (List.mem_of_mem_filter hc)

/-- Deletes a file, and its chunks with it. -/
def deleteFile (r : Rows) (id : Uuid) : Rows where
  files := r.files.filter (·.id ≠ id)
  chunks := r.chunks.filter (·.chunk.fileId ≠ id)
  fileKeys := r.fileKeys.sublist (List.filter_sublist.map _)
  chunkKeys := r.chunkKeys.sublist (List.filter_sublist.map _)
  owned c hc := by
    obtain ⟨hc, hkept⟩ := List.mem_filter.mp hc
    obtain ⟨f, hf, hid⟩ := List.mem_map.mp (r.owned c hc)
    refine List.mem_map.mpr ⟨f, List.mem_filter.mpr ⟨hf, ?_⟩, hid⟩
    rw [hid]
    exact hkept

/-! ## Statements -/

/-- The error of an insert under a key that is in use. -/
def duplicateKey (constraint : String) : DbError :=
  .query ("error returned from database: duplicate key value violates unique constraint " ++ quoted constraint)

/-- The error of a chunk without a file. -/
def missingFile : DbError :=
  .query ("error returned from database: insert or update on table \"chunk\" violates foreign key constraint " ++
    quoted "fk_chunk_file")

/-- Executes a statement. The schema is as the migrations have left it and does not change. -/
def execute (r : Rows) : Statement → Except DbError (Reply × Rows)
  | .insertFile f =>
    if h : f.id ∈ r.files.map (·.id) then .error (duplicateKey "file_pkey")
    else .ok (.rows [fileRow f], r.insertFile f h)
  | .insertChunk c createdAt updatedAt =>
    if h : c.id ∈ r.chunks.map (·.chunk.id) then .error (duplicateKey "chunk_pkey")
    else if howner : c.fileId ∈ r.files.map (·.id) then
      .ok (.rows [chunkRow c createdAt updatedAt], r.insertChunk ⟨c, createdAt, updatedAt⟩ h howner)
    else .error missingFile
  | .finishFile id size chunks now =>
    .ok (.affected (r.files.countP (·.id = id)),
      r.updateFile id fun f => { f with size := size, chunkIds := chunks, updatedAt := now })
  | .setMetadata id data now =>
    .ok (.affected (r.files.countP (·.id = id)),
      r.updateFile id fun f => { f with metadata := data, updatedAt := now })
  | .selectFile id => .ok (.rows ((r.files.find? (·.id = id)).toList.map fileRow), r)
  | .selectBytes id =>
    .ok (.rows ((r.chunks.find? (·.chunk.id = id)).toList.map fun c => [("bytes", .bytes c.chunk.bytes)]), r)
  | .deleteChunks file => .ok (.affected (r.chunks.countP (·.chunk.fileId = file)), r.deleteChunks file)
  | .deleteFile id => .ok (.affected (r.files.countP (·.id = id)), r.deleteFile id)
  | .schema _ => .error (.execution "the schema does not change")

end Rows

/-- A relational database: the committed rows, and the open transaction with its copy of them. -/
structure Relational where
  committed : Rows
  opened : Option (TxId × Rows)

namespace Relational

/-- No rows and no transaction. -/
def empty : Relational := ⟨.empty, none⟩

/-- The error of a command that comes while a transaction is open. -/
def busy : DbError := .connection "another transaction is open"

/-- The error of a command that names a transaction which is not open. -/
def notOpen : DbError := .connection "no such transaction"

/-- The copy that the transaction of this name works on. -/
def copy? (d : Relational) (tx : TxId) : Option Rows :=
  match d.opened with
  | some (name, rows) => if name = tx then some rows else none
  | none => none

/-- Takes a command. -/
def execute : Database Relational
  | .begin tx, d =>
    match d.opened with
    | none => (.ok (.affected 0), { d with opened := some (tx, d.committed) })
    | some _ => (.error busy, d)
  | .commit tx, d =>
    match d.copy? tx with
    | some rows => (.ok (.affected 0), ⟨rows, none⟩)
    | none => (.error notOpen, d)
  | .rollback tx, d | .discard tx, d =>
    match d.copy? tx with
    | some _ => (.ok (.affected 0), { d with opened := none })
    | none => (.error notOpen, d)
  | .run (some tx) s, d =>
    match d.copy? tx with
    | some rows =>
      match rows.execute s with
      | .ok (reply, rows) => (.ok reply, { d with opened := some (tx, rows) })
      | .error e => (.error e, d)
    | none => (.error notOpen, d)
  | .run none s, d =>
    match d.opened with
    | none =>
      match d.committed.execute s with
      | .ok (reply, rows) => (.ok reply, { d with committed := rows })
      | .error e => (.error e, d)
    | some _ => (.error busy, d)

variable {d : Relational} {tx : TxId} {rows rows' : Rows} {s : Statement} {reply : Reply}

theorem copy?_of_opened (h : d.opened = some (tx, rows)) : d.copy? tx = some rows := by
  unfold copy?
  rw [h]
  exact if_pos rfl

theorem execute_begin (h : d.opened = none) (tx : TxId) :
    execute (.begin tx) d = (.ok (.affected 0), { d with opened := some (tx, d.committed) }) := by
  unfold execute
  simp only [h]

theorem execute_commit (h : d.opened = some (tx, rows)) :
    execute (.commit tx) d = (.ok (.affected 0), ⟨rows, none⟩) := by
  unfold execute
  simp only [copy?_of_opened h]

theorem execute_rollback (h : d.opened = some (tx, rows)) :
    execute (.rollback tx) d = (.ok (.affected 0), { d with opened := none }) := by
  unfold execute
  simp only [copy?_of_opened h]

/-- A statement inside of a transaction works on the copy. -/
theorem execute_inside (h : d.opened = some (tx, rows)) (hs : rows.execute s = .ok (reply, rows')) :
    execute (.run (some tx) s) d = (.ok reply, { d with opened := some (tx, rows') }) := by
  unfold execute
  simp only [copy?_of_opened h, hs]

/-- A statement outside of any transaction works on the committed rows. -/
theorem execute_outside (h : d.opened = none) (hs : d.committed.execute s = .ok (reply, rows')) :
    execute (.run none s) d = (.ok reply, { d with committed := rows' }) := by
  unfold execute
  simp only [h, hs]

/-- **What is refused changes nothing.** -/
theorem execute_of_error {c : Command} {e : DbError} (h : (execute c d).1 = .error e) : (execute c d).2 = d := by
  revert h
  unfold execute
  -- each command either succeeds, or hands back the database as it was
  repeat' split
  all_goals first
    | exact fun _ => rfl
    | exact nofun

end Relational

/-! ## A store over the database -/

theorem file_fileRow (f : FileRecord) : Row.file (fileRow f) = .ok f := by
  obtain ⟨id, size, chunkIds, metadata, createdAt, updatedAt⟩ := f
  cases metadata <;> rfl

/-- What becomes of a statement that is sent inside of a transaction. -/
theorem send_inside {α : Type} {d : Relational} {tx : TxId} {rows rows' : Rows} {s : Statement} {reply : Reply}
    (h : d.opened = some (tx, rows)) (hs : rows.execute s = .ok (reply, rows'))
    (read : Reply → Except DbError α) :
    send Relational.execute (some tx) s read d =
      ((read reply).mapError .database, { d with opened := some (tx, rows') }) := by
  unfold send
  rw [Relational.execute_inside h hs]
  rfl

/-- What becomes of a statement that is sent outside of any transaction. -/
theorem send_outside {α : Type} {d : Relational} {rows : Rows} {s : Statement} {reply : Reply}
    (h : d.opened = none) (hs : d.committed.execute s = .ok (reply, rows)) (read : Reply → Except DbError α) :
    send Relational.execute none s read d =
      ((read reply).mapError .database, { d with committed := rows }) := by
  unfold send
  rw [Relational.execute_outside h hs]
  rfl

namespace Store

variable {d : Store Relational} {tx : TxId} {rows : Rows}

/-- The database of the store, with another copy in its open transaction. -/
def withCopy (d : Store Relational) (tx : TxId) (rows : Rows) : Relational :=
  { d.db with opened := some (tx, rows) }

/-- The file that the store creates next. -/
def created (d : Store Relational) : FileRecord where
  id := d.nextId
  size := 0
  chunkIds := []
  metadata := none
  createdAt := d.now
  updatedAt := d.now

theorem serve_begin (h : d.db.opened = none) :
    d.serve Relational.execute .begin =
      (.ok d.nextTx, { d with db := d.withCopy d.nextTx d.db.committed, nextTx := d.nextTx + 1 }) := by
  show d.begin Relational.execute = _
  unfold begin control
  rw [Relational.execute_begin h]
  rfl

theorem serve_commit (h : d.db.opened = some (tx, rows)) :
    d.serve Relational.execute (.commit tx) = (.ok (), { d with db := ⟨rows, none⟩ }) := by
  show d.control Relational.execute "commit" (.commit tx) = _
  unfold control
  rw [Relational.execute_commit h]
  rfl

theorem serve_rollback (h : d.db.opened = some (tx, rows)) :
    d.serve Relational.execute (.rollback tx) = (.ok (), { d with db := { d.db with opened := none } }) := by
  show d.control Relational.execute "rollback" (.rollback tx) = _
  unfold control
  rw [Relational.execute_rollback h]
  rfl

theorem serve_insertFile (h : d.db.opened = some (tx, rows)) (hnew : d.created.id ∉ rows.files.map (·.id)) :
    d.serve Relational.execute (.insertFile tx) =
      (.ok d.nextId, d.advance (d.withCopy tx (rows.insertFile d.created hnew))) := by
  have hrows : rows.execute (.insertFile d.created) =
      .ok (.rows [fileRow d.created], rows.insertFile d.created hnew) := dif_neg hnew
  have hread : inserted Row.file (.rows [fileRow d.created]) = .ok d.created := file_fileRow d.created
  have hsend : File.create Relational.execute (some tx) d.nextId d.now d.db =
      (.ok d.created, d.withCopy tx (rows.insertFile d.created hnew)) := by
    refine (send_inside h hrows (inserted Row.file)).trans ?_
    rw [hread]
    rfl
  show d.insertFile Relational.execute tx = _
  unfold insertFile
  rw [hsend]
  rfl

theorem serve_insertChunk {file : Uuid} {bytes : Bytes} (h : d.db.opened = some (tx, rows))
    (hbytes : bytes.isEmpty = false) (hnew : d.nextId ∉ rows.chunks.map (·.chunk.id))
    (howner : file ∈ rows.files.map (·.id)) :
    d.serve Relational.execute (.insertChunk tx file bytes) =
      (.ok d.nextId, d.advance (d.withCopy tx
        (rows.insertChunk ⟨⟨d.nextId, file, bytes⟩, d.now, d.now⟩ hnew howner))) := by
  have hrows : rows.execute (.insertChunk ⟨d.nextId, file, bytes⟩ d.now d.now) =
      .ok (.rows [chunkRow ⟨d.nextId, file, bytes⟩ d.now d.now],
        rows.insertChunk ⟨⟨d.nextId, file, bytes⟩, d.now, d.now⟩ hnew howner) :=
    (dif_neg hnew).trans (dif_pos howner)
  show d.insertChunk Relational.execute tx file bytes = _
  unfold insertChunk Chunk.create
  rw [if_neg (ne_true_of_eq_false hbytes), send_inside h hrows]
  rfl

theorem serve_finishFile {file : Uuid} {size : Int} {ids : List Uuid} (h : d.db.opened = some (tx, rows))
    (hsize : 0 ≤ size) (hfile : file ∈ rows.files.map (·.id)) :
    d.serve Relational.execute (.finishFile tx file size ids) =
      (.ok (), d.tick (d.withCopy tx
        (rows.updateFile file fun f => { f with size := size, chunkIds := ids, updatedAt := d.now }))) := by
  have hcount : rows.files.countP (·.id = file) ≠ 0 := by
    obtain ⟨f, hf, hid⟩ := List.mem_map.mp hfile
    exact Nat.ne_of_gt (List.countP_pos_iff.mpr ⟨f, hf, decide_eq_true hid⟩)
  show d.finishFile Relational.execute tx file size ids = _
  unfold finishFile File.finish
  rw [if_neg (Int.not_lt.mpr hsize), send_inside h rfl]
  simp only [Except.mapError, Reply.count, if_neg hcount]
  rfl

theorem serve_deleteChunks (h : d.db.opened = some (tx, rows)) (file : Uuid) :
    d.serve Relational.execute (.deleteChunks tx file) =
      (.ok (rows.chunks.countP (·.chunk.fileId = file)),
        { d with db := d.withCopy tx (rows.deleteChunks file) }) := by
  show d.deleteChunks Relational.execute tx file = _
  unfold deleteChunks Chunk.deleteByFile
  rw [send_inside h rfl]
  rfl

theorem serve_deleteFile (h : d.db.opened = some (tx, rows)) (file : Uuid) :
    d.serve Relational.execute (.deleteFile tx file) =
      (.ok (rows.files.countP (·.id = file)), { d with db := d.withCopy tx (rows.deleteFile file) }) := by
  show d.deleteFile Relational.execute tx file = _
  unfold deleteFile File.delete
  rw [send_inside h rfl]
  rfl

theorem serve_findFile (h : d.db.opened = none) (id : Uuid) :
    d.serve Relational.execute (.findFile id) = (.ok (d.db.committed.files.find? (·.id = id)), d) := by
  have hread : selected Row.file (.rows ((d.db.committed.files.find? (·.id = id)).toList.map fileRow)) =
      .ok (d.db.committed.files.find? (·.id = id)) := by
    cases d.db.committed.files.find? (·.id = id) with
    | none => rfl
    | some f => exact congrArg (Except.map some) (file_fileRow f)
  show d.findFile Relational.execute id = _
  unfold findFile File.find
  rw [send_outside h rfl, hread]
  rfl

theorem serve_findChunk (h : d.db.opened = none) (id : Uuid) :
    d.serve Relational.execute (.findChunk id) =
      (.ok ((d.db.committed.chunks.find? (·.chunk.id = id)).map (·.chunk.bytes)), d) := by
  show d.findChunk Relational.execute id = _
  unfold findChunk Chunk.findBytes
  rw [send_outside h rfl]
  cases d.db.committed.chunks.find? (·.chunk.id = id) <;> rfl

theorem serve_updateMetadata (h : d.db.opened = none) (id : Uuid) (data : Option Bytes) :
    d.serve Relational.execute (.updateMetadata id data) =
      (.ok (d.db.committed.files.countP (·.id = id)),
        d.tick { d.db with committed :=
          d.db.committed.updateFile id fun f => { f with metadata := data, updatedAt := d.now } }) := by
  show d.updateMetadata Relational.execute id data = _
  unfold updateMetadata File.setMetadata
  rw [send_outside h rfl]
  rfl

end Store
end ChunkVault.Sql
