/-
# ChunkVault.Proofs.Sql.Interchange -- one store is as good as the other

A client saves, opens, annotates and deletes files, and reads and seeks in what it has opened, one after
another and as it likes. It is served once over a store in memory, and once over a store on a relational
database, where it names the files that it was given by the ids that it was given there.
`session_interchangeable` says that it cannot tell which store it is: it is answered the same, step by step,
up to the names of ids and the values of stamps, and the tables that are left correspond.
-/
import ChunkVault.Proofs.Latch
import ChunkVault.Proofs.Sql.Calls

namespace ChunkVault

open Program Memory

variable {n : Nat} {tx tx' : TxId} {file : Uuid}

/-! ## Saving -/

/-- The same upload under other ids. -/
def Written.renamed (ρ : Equiv.Perm Uuid) (w : Written) : Written := ⟨w.size, w.chunkIds.map ρ⟩

theorem Written.renamed_add (ρ : Equiv.Perm Uuid) (w : Written) (id : Uuid) (length : Nat) :
    (w.renamed ρ).add (ρ id) length = (w.add id length).renamed ρ := by
  simp [Written.add, Written.renamed]

theorem writeChunks_lockstep (token : Token) (fills : List Fill) {written : Written} (hsize : 0 ≤ written.size) :
    Lockstep (Writing n tx tx' file) (writeChunks token tx file fills written)
      (writeChunks token tx' (Uuid.shift n file) fills (written.renamed (Uuid.shift n)))
      (Concur (fun w w' τ s d => (w' = w.renamed (Uuid.shift n) ∧ 0 ≤ w.size) ∧ Writing n tx tx' file τ s d)
        (Drafting n tx tx')) := by
  -- along the fills; what has been written so far is the same under other ids
  induction fills generalizing written with
  | nil => exact .succeed fun _ _ _ h => ⟨⟨rfl, hsize⟩, h⟩
  | cons fill rest ih =>
    have hpull : (pull token fill).Asks Query.Silent := pull_asks token trivial (fun _ => trivial) fun _ => trivial
    refine (Lockstep.of_silent hpull).bind fun taken taken' => .given ?_
    rintro rfl
    cases taken with
    | error e => exact .fail _ fun _ _ _ h => h.toDrafting
    | ok content =>
      dsimp only
      by_cases hempty : content.isEmpty = true
      · rw [if_pos hempty, if_pos hempty]
        exact .succeed fun _ _ _ h => ⟨⟨rfl, hsize⟩, h⟩
      · rw [if_neg hempty, if_neg hempty]
        refine (Lockstep.race (insertChunk_alike (eq_false_of_ne_true hempty)) (fun _ _ _ h => h.toDrafting)
          token).bind_concur (fun _ => .fail _ fun _ _ _ h => h) fun id id' => .given ?_
        rintro rfl
        have hadded : 0 ≤ (written.add id content.length).size := Int.add_nonneg hsize (Int.natCast_nonneg _)
        dsimp only
        rw [Written.renamed_add]
        split
        · exact .succeed fun _ _ _ h => ⟨⟨rfl, hadded⟩, h⟩
        · exact ih hadded

theorem writeFile_lockstep (token : Token) (source : Source) :
    Lockstep (Drafting n tx tx') (writeFile token tx source) (writeFile token tx' source)
      (Concur (fun id id' τ s d => id' = Uuid.shift n id ∧ Drafted n tx tx' τ s d) (Drafted n tx tx')) := by
  refine (Lockstep.race insertFile_alike (fun _ _ _ h => h) token).bind_concur
    (fun _ => .fail _ fun _ _ _ h => h.drafted) fun id id' => .given ?_
  rintro rfl
  refine (writeChunks_lockstep token source.fills (Int.le_refl 0)).bind_concur
    (fun _ => .fail _ fun _ _ _ h => h.drafted) fun w w' => .given ?_
  rintro ⟨rfl, hsize⟩
  exact (Lockstep.race (finishFile_alike hsize w.chunkIds) (fun _ _ _ h => h.toDrafting) token).bind_concur
    (fun _ => .fail _ fun _ _ _ h => h.drafted) fun _ _ => .succeed fun _ _ _ h => ⟨rfl, h⟩

/-- A transaction is rolled back, and the error that led to it is reported. -/
theorem abandon_lockstep {α β : Type} {J : α → β → Bond} (e : StorageError) :
    Lockstep (Drafted n tx tx') ((Storage.abandon tx).bind fun _ => .done (.error e))
      ((Storage.abandon tx').bind fun _ => .done (.error e)) (Concur J (Idle n)) := by
  have hrollback : Lockstep (Drafted n tx tx') (Storage.abandon tx) (Storage.abandon tx') fun _ _ => Idle n :=
    (Lockstep.call rollback_alike).bind_concur (fun _ => .done fun _ _ _ h => h) fun _ _ => .done fun _ _ _ h => h
  exact hrollback.bind fun _ _ => .fail _ fun _ _ _ h => h

/-- A transaction is committed, and the value that was prepared is answered. -/
theorem settle_lockstep {α β : Type} {J : α → β → Bond} {a : α} {b : β} (h : ∀ τ s d, Idle n τ s d → J a b τ s d) :
    Lockstep (Drafted n tx tx') (Storage.settle tx a) (Storage.settle tx' b) (Concur J (Idle n)) :=
  (Lockstep.call commit_alike).bind_concur (fun _ => .fail _ fun _ _ _ hidle => hidle) fun _ _ => .succeed h

/-- **Saving** answers with the next id of either store. -/
theorem save_lockstep (token : Token) (source : Source) :
    Lockstep (Idle n) (Storage.save token source) (Storage.save token source)
      (Concur (fun id id' τ s d => id' = Uuid.shift n id ∧ Idle n τ s d) (Idle n)) := by
  refine .counted .save ?_
  refine (Lockstep.race begin_alike (fun _ _ _ h => h) token).bind_concur
    (fun _ => .fail _ fun _ _ _ h => h) fun tx tx' => ?_
  refine (writeFile_lockstep token source).bind_concur (fun _ => abandon_lockstep _) fun id id' => .given ?_
  rintro rfl
  have hfired : (fired token).Asks Query.Silent := ⟨trivial, fun _ => trivial⟩
  refine (Lockstep.of_silent hfired).bind fun b b' => .given ?_
  rintro rfl
  cases b with
  | true => exact abandon_lockstep _
  | false => exact settle_lockstep fun _ _ _ h => ⟨rfl, h⟩

/-! ## Deleting and annotating -/

theorem removeRows_lockstep (id : Uuid) :
    Lockstep (Drafting n tx tx') (Storage.removeRows tx id) (Storage.removeRows tx' (Uuid.shift n id))
      (Concur (fun _ _ => Drafted n tx tx') (Drafted n tx tx')) := by
  refine (Lockstep.call deleteChunks_alike).bind_concur
    (fun _ => .fail _ fun _ _ _ h => h.drafted) fun _ _ => .given fun _ => ?_
  exact (Lockstep.call deleteFile_alike).bind_concur (fun _ => .fail _ fun _ _ _ h => h.drafted)
    fun _ _ => .given fun _ => .succeed fun _ _ _ h => h.drafted

/-- **Deleting** a file. -/
theorem delete_lockstep (id : Uuid) :
    Lockstep (Idle n) (Storage.delete id) (Storage.delete (Uuid.shift n id))
      (Concur (fun _ _ => Idle n) (Idle n)) := by
  refine .counted .delete ?_
  refine (Lockstep.call begin_alike).bind_concur (fun _ => .fail _ fun _ _ _ h => h) fun tx tx' => ?_
  refine (removeRows_lockstep id).bind_concur (fun _ => abandon_lockstep _) fun _ _ => ?_
  exact settle_lockstep fun _ _ _ h => h

/-- **Annotating** a file. -/
theorem setMetadata_lockstep (id : Uuid) (data : Bytes) :
    Lockstep (Idle n) (Storage.setMetadata id data) (Storage.setMetadata (Uuid.shift n id) data)
      (Concur (fun _ _ => Idle n) (Idle n)) := by
  refine .counted .setMetadata ?_
  refine (Lockstep.call (updateMetadata_alike id (some data))).bind_concur
    (fun _ => .fail _ fun _ _ _ h => h) fun rows rows' => .given ?_
  rintro rfl
  dsimp only
  split
  · exact .fail _ fun _ _ _ h => h
  · exact .succeed fun _ _ _ h => h

/-! ## Opening and reading -/

/-- The same reader over the chunks under other ids. -/
def Reader.renamed (ρ : Equiv.Perm Uuid) (r : Reader) : Reader := { r with chunkIds := r.chunkIds.map ρ }

/-- The same open file under other ids and other stamps. -/
structure StoredFile.Alike (ρ : Equiv.Perm Uuid) (τ : Stamps) (f g : StoredFile) : Prop where
  info : f.info.Alike ρ τ g.info
  reader : g.reader = f.reader.renamed ρ

/-- **Opening** a file. -/
theorem open_lockstep (token : Token) (id : Uuid) :
    Lockstep (Idle n) (Storage.open token id) (Storage.open token (Uuid.shift n id))
      (Concur (fun f g τ s d => f.Alike (Uuid.shift n) τ g ∧ Idle n τ s d) (Idle n)) := by
  refine .counted .open ?_
  refine (Lockstep.race (findFile_alike id) (fun _ _ _ h => h) token).bind_concur
    (fun e => .fail e fun _ _ _ h => h) fun found found' => ?_
  cases found with
  | none =>
    cases found' with
    | none => exact .fail _ fun _ _ _ h => h.2
    | some g => exact .done fun _ _ _ h => nomatch h.1
  | some f =>
    cases found' with
    | none => exact .done fun _ _ _ h => nomatch h.1
    | some g =>
      refine .done fun τ s d ⟨hfound, h⟩ => .ok ⟨?_, h⟩
      cases hfound with
      | some hfg =>
        refine ⟨hfg.info, ?_⟩
        show Reader.new token g.size g.chunkIds = (Reader.new token f.size f.chunkIds).renamed _
        rw [hfg.size, hfg.chunkIds]
        rfl

namespace Reader

variable (ρ : Equiv.Perm Uuid) (r : Reader)

/-- The same answer, and the reader that it leaves under other ids. -/
def twin {α : Type} (x : α × Reader) : α × Reader := (x.1, x.2.renamed ρ)

theorem deliver_renamed (chunk : Bytes) (room : Nat) :
    (r.renamed ρ).deliver chunk room = twin ρ (r.deliver chunk room) := by
  unfold deliver
  simp only [show (r.renamed ρ).offset = r.offset from rfl, show (r.renamed ρ).size = r.size from rfl,
    show (r.renamed ρ).position = r.position from rfl, show (r.renamed ρ).index = r.index from rfl]
  split
  · rfl
  · split <;> rfl

theorem seek_renamed (offset : Int) (whence : Whence) :
    (r.renamed ρ).seek offset whence = twin ρ (r.seek offset whence) := by
  have hlatched : (r.renamed ρ).seekLatched? = r.seekLatched? := rfl
  have horigin : (r.renamed ρ).origin whence = r.origin whence := by cases whence <;> rfl
  unfold seek
  rw [hlatched]
  simp only [horigin]
  split
  · rfl
  · split <;> rfl

theorem seekNumbered_renamed (offset whence : Int) :
    (r.renamed ρ).seekNumbered offset whence = twin ρ (r.seekNumbered offset whence) := by
  unfold seekNumbered
  split
  · rfl
  · exact seek_renamed ρ r offset _

theorem seekTo_renamed (target : SeekTarget) : (r.renamed ρ).seekTo target = twin ρ (r.seekTo target) := by
  cases target with
  | start offset =>
    show (r.renamed ρ).seekUnsigned offset = twin ρ (r.seekUnsigned offset)
    unfold seekUnsigned
    split
    · exact seek_renamed ρ r offset .start
    · rfl
  | current offset => exact seek_renamed ρ r offset .current
  | fromEnd offset => exact seek_renamed ρ r offset .fromEnd

theorem close_renamed : (r.renamed ρ).close = twin ρ r.close := by
  unfold close
  simp only [show (r.renamed ρ).closed = r.closed from rfl]
  split <;> rfl

/-- A bond for readers: the same answer, and the same reader under other ids. -/
def Twins {α : Type} (n : Nat) (x y : α × Reader) : Bond := fun τ s d => y = twin (Uuid.shift n) x ∧ Idle n τ s d

/-- The error of a place without a chunk does not name any id. -/
theorem outOfRange_renamed : (r.renamed ρ).outOfRange = r.outOfRange := by
  have hlength : (r.renamed ρ).chunkIds.length = r.chunkIds.length := List.length_map ..
  unfold outOfRange
  rw [hlength]
  rfl

theorem fetchAndDeliver_lockstep (room : Nat) :
    Lockstep (Idle n) (r.fetchAndDeliver room) ((r.renamed (Uuid.shift n)).fetchAndDeliver room) (Twins n) := by
  unfold fetchAndDeliver
  have hids : (r.renamed (Uuid.shift n)).chunkIds[(r.renamed (Uuid.shift n)).index]? =
      r.chunkIds[r.index]?.map (Uuid.shift n) := List.getElem?_map
  rw [hids]
  cases r.chunkIds[r.index]? with
  | none =>
    refine .done fun _ _ _ h => ⟨?_, h⟩
    show (r.renamed (Uuid.shift n)).fail (r.renamed (Uuid.shift n)).outOfRange =
      twin (Uuid.shift n) (r.fail r.outOfRange)
    rw [outOfRange_renamed]
    rfl
  | some id =>
    refine (Lockstep.fetch (findChunk_alike id) (fun _ _ _ h => h) r.token).bind_concur
      (fun e => .done fun _ _ _ h => ⟨rfl, h⟩) fun found found' => .given ?_
    rintro rfl
    cases found' with
    | none => exact .done fun _ _ _ h => ⟨rfl, h⟩
    | some content =>
      have hdeliver := deliver_renamed (Uuid.shift n) { r with cached := some ⟨r.index, content⟩ } content room
      exact .done fun _ _ _ h => ⟨hdeliver, h⟩

theorem read_lockstep (room : Nat) :
    Lockstep (Idle n) (r.read room) ((r.renamed (Uuid.shift n)).read room) (Twins n) := by
  have hlatched : (r.renamed (Uuid.shift n)).latched? = r.latched? := rfl
  have hposition : (r.renamed (Uuid.shift n)).position = r.position := rfl
  have hsize : (r.renamed (Uuid.shift n)).size = r.size := rfl
  have hcached : (r.renamed (Uuid.shift n)).cachedAt? (r.renamed (Uuid.shift n)).index = r.cachedAt? r.index := rfl
  unfold read
  rw [hlatched, hposition, hsize, hcached]
  cases r.latched? with
  | some e => exact .done fun _ _ _ h => ⟨rfl, h⟩
  | none =>
    dsimp only
    split
    · exact .done fun _ _ _ h => ⟨rfl, h⟩
    · split
      · exact .done fun _ _ _ h => ⟨rfl, h⟩
      · cases r.cachedAt? r.index with
        | some content => exact .done fun _ _ _ h => ⟨deliver_renamed _ r content room, h⟩
        | none => exact fetchAndDeliver_lockstep r room

theorem drainWithin_lockstep (reads : Nat) :
    Lockstep (Idle n) (drainWithin reads r) (drainWithin reads (r.renamed (Uuid.shift n))) (Twins n) := by
  -- along the reads, each from the reader that the one before it has left
  induction reads generalizing r with
  | zero => exact .done fun _ _ _ h => ⟨rfl, h⟩
  | succ reads ih =>
    refine (read_lockstep r chunkSize).bind fun ⟨result, r₁⟩ y => .given ?_
    rintro rfl
    cases result with
    | error e => cases e <;> exact .done fun _ _ _ h => ⟨rfl, h⟩
    | ok outcome =>
      by_cases hend : outcome.endOfStream = true
      · simp only [twin, hend, if_true]
        exact .done fun _ _ _ h => ⟨rfl, h⟩
      · simp only [twin, hend]
        refine (ih r₁).bind fun ⟨rest, r₂⟩ y => .given ?_
        rintro rfl
        exact .done fun _ _ _ h => ⟨rfl, h⟩

theorem readToEnd_lockstep :
    Lockstep (Idle n) r.readToEnd (r.renamed (Uuid.shift n)).readToEnd (Twins n) :=
  drainWithin_lockstep r _

/-- An operation replies with what a step of the reader has answered. -/
theorem reply_lockstep {α : Type} (reply : α → ReaderReply) {x y : α × Reader} (h : y = twin (Uuid.shift n) x) :
    Lockstep (Idle n) (.done (reply x.1, x.2)) (.done (reply y.1, y.2)) (Twins n) := by
  subst h
  exact .done fun _ _ _ h => ⟨rfl, h⟩

/-- **An operation on a reader.** -/
theorem operate_lockstep (op : ReaderOp) :
    Lockstep (Idle n) (r.operate op) ((r.renamed (Uuid.shift n)).operate op) (Twins n) := by
  cases op with
  | read room => exact (read_lockstep r room).bind fun x y => .given fun h => reply_lockstep .read h
  | seek offset whence => exact reply_lockstep .seek (seek_renamed _ r offset whence)
  | seekNumbered offset whence => exact reply_lockstep .seek (seekNumbered_renamed _ r offset whence)
  | seekTo target => exact reply_lockstep .seek (seekTo_renamed _ r target)
  | readToEnd => exact (readToEnd_lockstep r).bind fun x y => .given fun h => reply_lockstep .content h
  | close => exact reply_lockstep .close (close_renamed _ r)

end Reader

/-! ## Sessions -/

/-- What a client does next. A reader goes by its number among those that it was given. -/
inductive Errand where
  | save (token : Token) (source : Source)
  | «open» (token : Token) (id : Uuid)
  | operate (reader : Nat) (op : ReaderOp)
  | setMetadata (id : Uuid) (data : Bytes)
  | delete (id : Uuid)

/-- What a client is answered. -/
inductive Answered where
  | saved (result : Except StorageError Uuid)
  | opened (result : Except StorageError FileInfo)
  /-- There is a reply if there is a reader of that number. -/
  | operated (reply : Option ReaderReply)
  | annotated (result : Except StorageError Unit)
  | deleted (result : Except StorageError Unit)

namespace Errand

/-- Does it, with these readers at hand. -/
def act : Errand → List Reader → Program (Answered × List Reader)
  | save token source, readers => do
    let result ← Storage.save token source
    return (.saved result, readers)
  | «open» token id, readers => do
    match ← Storage.open token id with
    | .error e => return (.opened (.error e), readers)
    | .ok file => return (.opened (.ok file.info), readers ++ [file.reader])
  | operate i op, readers =>
    match readers[i]? with
    | none => return (.operated none, readers)
    | some r => do
      let (reply, r) ← r.operate op
      return (.operated (some reply), readers.set i r)
  | setMetadata id data, readers => do
    let result ← Storage.setMetadata id data
    return (.annotated result, readers)
  | delete id, readers => do
    let result ← Storage.delete id
    return (.deleted result, readers)

/-- Does one after another. -/
def session : List Errand → List Reader → Program (List Answered × List Reader)
  | [], readers => return ([], readers)
  | errand :: errands, readers => do
    let (answer, readers) ← errand.act readers
    let (answers, readers) ← session errands readers
    return (answer :: answers, readers)

/-- The same errand under other ids. -/
def renamed (ρ : Equiv.Perm Uuid) : Errand → Errand
  | save token source => save token source
  | «open» token id => «open» token (ρ id)
  | operate i op => operate i op
  | setMetadata id data => setMetadata (ρ id) data
  | delete id => delete (ρ id)

end Errand

/-- Both are well, and this is known of the values, or both are the same error. -/
inductive Agree {α β : Type} (R : α → β → Prop) : Except StorageError α → Except StorageError β → Prop
  | ok {a : α} {b : β} (h : R a b) : Agree R (.ok a) (.ok b)
  | error (e : StorageError) : Agree R (.error e) (.error e)

/-- **The same answer**, up to ids and stamps. -/
inductive Answered.Alike (ρ : Equiv.Perm Uuid) (τ : Stamps) : Answered → Answered → Prop
  | saved {x y : Except StorageError Uuid} (h : Agree (fun id id' => id' = ρ id) x y) :
      Alike ρ τ (.saved x) (.saved y)
  | opened {x y : Except StorageError FileInfo} (h : Agree (FileInfo.Alike ρ τ) x y) :
      Alike ρ τ (.opened x) (.opened y)
  | operated (reply : Option ReaderReply) : Alike ρ τ (.operated reply) (.operated reply)
  | annotated (result : Except StorageError Unit) : Alike ρ τ (.annotated result) (.annotated result)
  | deleted (result : Except StorageError Unit) : Alike ρ τ (.deleted result) (.deleted result)

theorem Answered.Alike.mono {ρ : Equiv.Perm Uuid} {τ τ' : Stamps} (hτ : τ ≤ τ') {x y : Answered}
    (h : x.Alike ρ τ y) : x.Alike ρ τ' y := by
  cases h with
  | saved h => exact .saved h
  | opened h =>
    refine .opened ?_
    cases h with
    | ok h => exact .ok (h.mono hτ)
    | error e => exact .error e
  | operated reply => exact .operated reply
  | annotated result => exact .annotated result
  | deleted result => exact .deleted result

namespace Errand

/-- The readers at hand are the same under other ids. -/
def Follow {α β : Type} (n : Nat) (R : Stamps → α → β → Prop) (x : α × List Reader) (y : β × List Reader) : Bond :=
  fun τ s d => y.2 = x.2.map (Reader.renamed (Uuid.shift n)) ∧ R τ x.1 y.1 ∧ Idle n τ s d

/-- **One errand** is answered the same over both stores. -/
theorem act_lockstep (errand : Errand) (readers : List Reader) :
    Lockstep (Idle n) (errand.act readers)
      ((errand.renamed (Uuid.shift n)).act (readers.map (Reader.renamed (Uuid.shift n))))
      (Follow n (Answered.Alike (Uuid.shift n))) := by
  cases errand with
  | save token source =>
    exact (save_lockstep token source).bind_concur (fun e => .done fun _ _ _ h => ⟨rfl, .saved (.error e), h⟩)
      fun id id' => .done fun _ _ _ h => ⟨rfl, .saved (.ok h.1), h.2⟩
  | «open» token id =>
    refine (open_lockstep token id).bind_concur (fun e => .done fun _ _ _ h => ⟨rfl, .opened (.error e), h⟩)
      fun f g => .done fun _ _ _ h => ⟨?_, .opened (.ok h.1.info), h.2⟩
    rw [h.1.reader, List.map_append]
    rfl
  | operate i op =>
    simp only [renamed, act, List.getElem?_map]
    cases readers[i]? with
    | none => exact .done fun _ _ _ h => ⟨rfl, .operated none, h⟩
    | some r =>
      refine (Reader.operate_lockstep r op).bind fun ⟨reply, r₁⟩ y => .given ?_
      rintro rfl
      exact .done fun _ _ _ h => ⟨List.map_set.symm, .operated (some reply), h⟩
  | setMetadata id data =>
    exact (setMetadata_lockstep id data).bind_concur
      (fun e => .done fun _ _ _ h => ⟨rfl, .annotated (.error e), h⟩)
      fun _ _ => .done fun _ _ _ h => ⟨rfl, .annotated (.ok ()), h⟩
  | delete id =>
    exact (delete_lockstep id).bind_concur (fun e => .done fun _ _ _ h => ⟨rfl, .deleted (.error e), h⟩)
      fun _ _ => .done fun _ _ _ h => ⟨rfl, .deleted (.ok ()), h⟩

theorem session_lockstep (errands : List Errand) (readers : List Reader) :
    Lockstep (Idle n) (session errands readers)
      (session (errands.map (Errand.renamed (Uuid.shift n))) (readers.map (Reader.renamed (Uuid.shift n))))
      (Follow n fun τ => List.Forall₂ (Answered.Alike (Uuid.shift n) τ)) := by
  -- along the errands; the answers so far stay the same when more stamps are matched
  induction errands generalizing readers with
  | nil => exact .done fun _ _ _ h => ⟨rfl, .nil, h⟩
  | cons errand errands ih =>
    refine (act_lockstep errand readers).bind fun ⟨x, readers₁⟩ ⟨y, readers₂⟩ => .given ?_
    rintro rfl
    refine ((ih readers₁).keeping fun τ τ' hτ (h : x.Alike (Uuid.shift n) τ y) => h.mono hτ).bind fun u v => ?_
    exact .done fun _ _ _ h => ⟨h.2.1, .cons h.1 h.2.2.1, h.2.2.2⟩

/-- **The stores are interchangeable.** Whatever a client does, beginning without any file, it is answered the
same over a store in memory and over a store on a relational database, and the tables that are left
correspond. Ids are renamed by a permutation that sends what the one store issues to what the other issues,
and stamps by a one-to-one matching. No transaction stays open. The one assumption is that the store in memory
does not come to issue an id for the second time. -/
theorem session_interchangeable (errands : List Errand) (fired : List String) (nextTx issued clock : Nat)
    (hids : (runMemory (session errands []) ⟨.empty, fired⟩).2.store.issued ≤ Uuid.issueCount) :
    let memory := runMemory (session errands []) ⟨.empty, fired⟩
    let sql := runSql (session (errands.map (Errand.renamed (Uuid.shift issued))) [])
      ⟨⟨.empty, nextTx, issued, clock⟩, fired⟩
    ∃ τ : Stamps, List.Forall₂ (Answered.Alike (Uuid.shift issued) τ) memory.1.1 sql.1.1 ∧
      memory.2.store.tables.Alike (Uuid.shift issued) τ sql.2.store.db.committed ∧
      sql.2.store.db.opened = none := by
  have hidle : Idle issued .empty Memory.Store.empty ⟨.empty, nextTx, issued, clock⟩ :=
    ⟨⟨.empty, rfl, Stamps.before_empty _ _, rfl, .empty⟩, rfl⟩
  obtain ⟨τ, -, -, -, hanswers, h⟩ := session_lockstep errands [] .empty .empty _ fired hidle hids
  exact ⟨τ, hanswers, h.tables, h.closed⟩

/-- Three bytes are saved, read, annotated and deleted; the database has issued seven ids before. -/
theorem session_interchangeable_three_bytes :
    let errands : List Errand := [.save .own [.bytes [97, 98, 99]], .open .own (.issue 0), .operate 0 .readToEnd,
      .setMetadata (.issue 0) [1], .open .own (.issue 0), .delete (.issue 0)]
    let memory := runMemory (session errands []) ⟨.empty, []⟩
    let sql := runSql (session (errands.map (Errand.renamed (Uuid.shift 7))) []) ⟨⟨.empty, 0, 7, 3⟩, []⟩
    memory.2.store.issued ≤ Uuid.issueCount ∧
      ∃ τ : Stamps, List.Forall₂ (Answered.Alike (Uuid.shift 7) τ) memory.1.1 sql.1.1 ∧
        memory.2.store.tables.Alike (Uuid.shift 7) τ sql.2.store.db.committed := by
  intro errands memory sql
  have hids : memory.2.store.issued ≤ Uuid.issueCount := by decide +kernel
  obtain ⟨τ, hanswers, htables, -⟩ := session_interchangeable errands [] 0 7 3 hids
  exact ⟨hids, τ, hanswers, htables⟩

end Errand
end ChunkVault
