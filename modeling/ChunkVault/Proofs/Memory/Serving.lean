/-
# ChunkVault.Proofs.Memory.Serving -- what a store does with a call

A store in memory keeps a list of open transactions. The first part reads that list: which transactions are
open, and what waits in them after each of the ways in which the list is changed. The second part says once
and for all what comes of the calls that can come out in more than one way. `Frame` says what a call leaves
untouched: the committed rows, unless it is one of the two calls that change them, and every transaction but
the one that it is made in.
-/
import ChunkVault.Proofs.Transacted
import ChunkVault.Memory.Store

namespace ChunkVault.Memory.Store

/-! ## Open transactions -/

/-- Whether a transaction of this name is open. -/
def isOpen (s : Store) (tx : TxId) : Bool := s.active.any (·.1 = tx)

theorem isOpen_iff {s : Store} {tx : TxId} :
    s.isOpen tx = true ↔ ∃ e, s.active.find? (·.1 = tx) = some e := by
  rw [isOpen, List.any_eq_true, ← Option.isSome_iff_exists, List.find?_isSome]

theorem transaction_of_not_isOpen {s : Store} {tx : TxId} (h : s.isOpen tx = false) :
    s.transaction tx = .empty := by
  have hf : s.active.find? (·.1 = tx) = none := by
    rw [List.find?_eq_none]
    intro e he
    rw [isOpen, List.any_eq_false] at h
    exact h e he
  rw [transaction, hf]

theorem isOpen_keep (s : Store) (tx : TxId) (t : Transaction) (n : TxId) :
    (s.keep tx t).isOpen n = s.isOpen n := by
  unfold isOpen keep
  rw [List.any_map]
  congr 1
  funext e
  show decide ((if e.1 = tx then (tx, t) else e).1 = n) = decide (e.1 = n)
  split <;> simp_all

theorem transaction_keep (s : Store) (tx : TxId) (t : Transaction) (n : TxId) :
    (s.keep tx t).transaction n = if n = tx ∧ s.isOpen tx = true then t else s.transaction n := by
  have hp : ((fun e : TxId × Transaction => decide (e.1 = n)) ∘
      fun e => if e.1 = tx then (tx, t) else e) = fun e => decide (e.1 = n) := by
    funext e
    show decide ((if e.1 = tx then (tx, t) else e).1 = n) = decide (e.1 = n)
    split <;> simp_all
  -- a transaction keeps its name, so the search stops where it has stopped before
  unfold transaction keep
  rw [List.find?_map, hp]
  cases hf : s.active.find? (·.1 = n) with
  | none =>
    -- what is not open stays so
    have hno : ¬(n = tx ∧ s.isOpen tx = true) := by
      rintro ⟨rfl, ho⟩
      obtain ⟨e, he⟩ := isOpen_iff.mp ho
      rw [hf] at he
      cases he
    rw [if_neg hno]
    rfl
  | some e =>
    have he : e.1 = n := by simpa using List.find?_some hf
    by_cases hn : n = tx
    · subst hn
      rw [if_pos ⟨rfl, isOpen_iff.mpr ⟨e, hf⟩⟩]
      simp [he]
    · rw [if_neg (fun h => hn h.1)]
      have hne : ¬e.1 = tx := by rwa [he]
      simp [hne]

theorem transaction_keep_of_ne (s : Store) {tx n : TxId} (t : Transaction) (hne : n ≠ tx) :
    (s.keep tx t).transaction n = s.transaction n := by
  rw [transaction_keep, if_neg fun h => hne h.1]

theorem isOpen_discard (s : Store) (tx n : TxId) :
    (s.discard tx).isOpen n = (s.isOpen n && decide (n ≠ tx)) := by
  unfold isOpen discard
  rw [List.any_filter, Bool.eq_iff_iff]
  simp only [List.any_eq_true, Bool.and_eq_true, decide_eq_true_eq]
  constructor
  · rintro ⟨e, he, hne, rfl⟩
    exact ⟨⟨e, he, rfl⟩, hne⟩
  · rintro ⟨⟨e, he, rfl⟩, hne⟩
    exact ⟨e, he, hne, rfl⟩

theorem transaction_discard (s : Store) (tx n : TxId) :
    (s.discard tx).transaction n = if n = tx then .empty else s.transaction n := by
  by_cases hn : n = tx
  · subst hn
    rw [if_pos rfl]
    exact transaction_of_not_isOpen (by rw [isOpen_discard]; simp)
  · -- a search for another name does not notice what was filtered out
    have hp : (fun e : TxId × Transaction => decide (decide (e.1 ≠ tx) = true ∧ decide (e.1 = n) = true)) =
        fun e => decide (e.1 = n) := by
      funext e
      by_cases he : e.1 = n
      · simp [he, hn]
      · simp [he]
    rw [if_neg hn]
    unfold transaction discard
    rw [List.find?_filter, hp]

theorem isOpen_begin (s : Store) (n : TxId) :
    s.begin.2.isOpen n = (decide (s.nextTx = n) || s.isOpen n) := by
  show (List.any ((s.nextTx, Transaction.empty) :: s.active) _) = _
  rw [List.any_cons]
  rfl

theorem transaction_begin (s : Store) (n : TxId) :
    s.begin.2.transaction n = if n = s.nextTx then .empty else s.transaction n := by
  unfold transaction begin
  by_cases hn : n = s.nextTx
  · subst hn
    rw [List.find?_cons_of_pos (by simp), if_pos rfl]
  · have hne : decide (s.nextTx = n) = false := decide_eq_false fun h => hn h.symm
    rw [if_neg hn]
    simp only [List.find?_cons, hne]

theorem isOpen_push (s : Store) (tx : TxId) (w : Write) (n : TxId) :
    (s.push tx w).isOpen n = s.isOpen n := isOpen_keep s tx _ n

/-- A write goes to its transaction, if that is open, and to no other. -/
theorem transaction_push (s : Store) (tx : TxId) (w : Write) (n : TxId) :
    (s.push tx w).transaction n =
      if n = tx ∧ s.isOpen tx = true then (s.transaction tx).push w else s.transaction n :=
  transaction_keep s tx _ n

/-! ## What comes of a call -/

/-- The store after a try to insert a chunk, which the transaction counts. -/
def tried (s : Store) (tx : TxId) : Store :=
  s.keep tx { s.transaction tx with inserts := (s.transaction tx).inserts + 1 }

/-- The store after the insert of a chunk. -/
def withChunk (s : Store) (tx : TxId) (file : Uuid) (bytes : Bytes) : Store :=
  { (s.tried tx).push tx (.insertChunk ⟨Uuid.issue s.issued, file, bytes⟩) with
    issued := s.issued + 1, inserts := s.inserts + 1 }

/-- The store after a commit. -/
def committed (s : Store) (tx : TxId) : Store :=
  { s.discard tx with
    tables := (s.transaction tx).apply s.now s.tables
    clock := s.clock + 1
    faults := { s.faults with fireInCommit := none } }

/-- The store after new metadata. -/
def annotated (s : Store) (id : Uuid) (data : Option Bytes) : Store :=
  { s with tables := s.tables.setMetadata s.now id data, clock := s.clock + 1 }

/-- A chunk is inserted, unless a switch forbids it or the transaction does not see its file. -/
theorem serve_insertChunk_cases (s : Store) (tx : TxId) (file : Uuid) (bytes : Bytes) :
    (s.faults.insertAt = some (s.transaction tx).inserts ∨
        (s.transaction tx).fileVisible s.tables file = false) ∧
      (∃ e, s.serve (.insertChunk tx file bytes) = (.error e, s.tried tx)) ∨
    (s.transaction tx).fileVisible s.tables file = true ∧
      s.serve (.insertChunk tx file bytes) = (.ok (Uuid.issue s.issued), s.withChunk tx file bytes) := by
  by_cases hfault : s.faults.insertAt = some (s.transaction tx).inserts
  · exact .inl ⟨.inl hfault, _, if_pos hfault⟩
  · cases hvisible : (s.transaction tx).fileVisible s.tables file with
    | true => exact .inr ⟨rfl, (if_neg hfault).trans (if_pos hvisible)⟩
    | false =>
      refine .inl ⟨.inr rfl, _, (if_neg hfault).trans (if_neg ?_)⟩
      exact ne_true_of_eq_false hvisible

/-- A file is finished if the transaction sees it. -/
theorem serve_finishFile_cases (s : Store) (tx : TxId) (file : Uuid) (size : Int) (ids : List Uuid) :
    (s.transaction tx).fileVisible s.tables file = true ∧
      s.serve (.finishFile tx file size ids) = (.ok (), s.push tx (.finishFile file size ids)) ∨
    (s.transaction tx).fileVisible s.tables file = false ∧
      s.serve (.finishFile tx file size ids) = (.error .notFound, s) := by
  cases hvisible : (s.transaction tx).fileVisible s.tables file with
  | true => exact .inl ⟨rfl, if_pos hvisible⟩
  | false => exact .inr ⟨rfl, if_neg (ne_true_of_eq_false hvisible)⟩

/-- A commit applies what waits, unless a switch forbids it. Its transaction is closed either way. -/
theorem serve_commit_cases (s : Store) (tx : TxId) :
    s.faults.commits = true ∧ (∃ e, s.serve (.commit tx) = (.error e, s.discard tx)) ∨
    s.faults.commits = false ∧ s.serve (.commit tx) = (.ok (), s.committed tx) := by
  cases hfault : s.faults.commits with
  | true => exact .inl ⟨rfl, _, if_pos hfault⟩
  | false => exact .inr ⟨rfl, if_neg (ne_true_of_eq_false hfault)⟩

/-- Metadata is replaced if there is a file for it. -/
theorem serve_updateMetadata_cases (s : Store) (id : Uuid) (data : Option Bytes) :
    s.tables.hasFile id = true ∧
      s.serve (.updateMetadata id data) = (.ok 1, s.annotated id data) ∨
    s.tables.hasFile id = false ∧ s.serve (.updateMetadata id data) = (.ok 0, s) := by
  cases hfile : s.tables.hasFile id with
  | true =>
    refine .inl ⟨rfl, ?_⟩
    show (Except.ok (s.updateMetadata id data).1, (s.updateMetadata id data).2) = _
    rw [updateMetadata, if_pos hfile]
    rfl
  | false =>
    refine .inr ⟨rfl, ?_⟩
    show (Except.ok (s.updateMetadata id data).1, (s.updateMetadata id data).2) = _
    rw [updateMetadata, if_neg (ne_true_of_eq_false hfile)]

/-- A fetch finds what the tables hold, unless a switch forbids it. It is counted, and leaves no other
mark. -/
theorem serve_findChunk (s : Store) (id : Uuid) :
    s.serve (.findChunk id) =
      (if s.faults.fetches then .error (.unknown "find chunk" ["injected fetch failure"])
        else .ok ((s.tables.chunk? id).map (·.bytes)), { s with fetches := s.fetches + 1 }) := by
  show s.findChunk id = _
  unfold findChunk
  simp only
  split <;> rfl

/-- What is left of a store by a call that failed before the store saw it. One that closes a transaction
closes it all the same. -/
def afterFailure (s : Store) (q : Request) : Store :=
  match q.closes? with
  | some tx => s.discard tx
  | none => s
/-! ## What a call leaves untouched -/

/-- What stays as it is when a call is made: the committed rows, unless the call can change them, and every
transaction but the one that it is made in; what has no transaction yet may get an empty one. Names and
ids are only ever used up. -/
structure Frame (q : Request) (s s' : Store) : Prop where
  tables : q.publishes = false → s'.tables = s.tables
  fetches : s'.faults.fetches = s.faults.fetches
  issued : s.issued ≤ s'.issued
  nextTx : s.nextTx ≤ s'.nextTx
  opened : ∀ n, s'.isOpen n = true → s.isOpen n = true ∨ q = .begin
  isOpen : ∀ n < s.nextTx, q.within? ≠ some n → s'.isOpen n = s.isOpen n
  transaction : ∀ n < s.nextTx, q.within? ≠ some n → s'.transaction n = s.transaction n
  others : ∀ n, q.within? ≠ some n → s'.transaction n = s.transaction n ∨ s'.transaction n = .empty

namespace Frame

variable {q : Request} {s s' s'' : Store}

/-- A store that differs in its rows and counters alone. -/
theorem of_active (hactive : s'.active = s.active) (hnext : s'.nextTx = s.nextTx)
    (htables : q.publishes = false → s'.tables = s.tables)
    (hfetches : s'.faults.fetches = s.faults.fetches) (hissued : s.issued ≤ s'.issued) :
    Frame q s s' := by
  have hopen : ∀ n, s'.isOpen n = s.isOpen n := fun n => by
    unfold Store.isOpen
    rw [hactive]
  have htransaction : ∀ n, s'.transaction n = s.transaction n := fun n => by
    unfold Store.transaction
    rw [hactive]
  exact ⟨htables, hfetches, hissued, Nat.le_of_eq hnext.symm, fun n hn => .inl ((hopen n).symm.trans hn),
    fun n _ _ => hopen n, fun n _ _ => htransaction n, fun n _ => .inl (htransaction n)⟩

theorem refl (q : Request) (s : Store) : Frame q s s :=
  of_active rfl rfl (fun _ => rfl) rfl (Nat.le_refl _)

theorem trans (h : Frame q s s') (h' : Frame q s' s'') : Frame q s s'' where
  tables hp := (h'.tables hp).trans (h.tables hp)
  fetches := h'.fetches.trans h.fetches
  issued := Nat.le_trans h.issued h'.issued
  nextTx := Nat.le_trans h.nextTx h'.nextTx
  opened n hn := (h'.opened n hn).elim (h.opened n) .inr
  isOpen n hn hq := (h'.isOpen n (Nat.lt_of_lt_of_le hn h.nextTx) hq).trans (h.isOpen n hn hq)
  transaction n hn hq :=
    (h'.transaction n (Nat.lt_of_lt_of_le hn h.nextTx) hq).trans (h.transaction n hn hq)
  others n hq := by
    rcases h'.others n hq with h₁ | h₁
    · exact (h.others n hq).imp h₁.trans h₁.trans
    · exact .inr h₁

theorem keep {tx : TxId} (hq : q.within? = some tx) (s : Store) (t : Transaction) :
    Frame q s (s.keep tx t) where
  tables _ := rfl
  fetches := rfl
  issued := Nat.le_refl _
  nextTx := Nat.le_refl _
  opened n hn := .inl (by rw [← hn, isOpen_keep])
  isOpen n _ _ := isOpen_keep s tx t n
  transaction n _ hne := transaction_keep_of_ne s t fun heq => hne (heq ▸ hq)
  others n hne := .inl (transaction_keep_of_ne s t fun heq => hne (heq ▸ hq))

theorem discard {tx : TxId} (hq : q.within? = some tx) (s : Store) : Frame q s (s.discard tx) where
  tables _ := rfl
  fetches := rfl
  issued := Nat.le_refl _
  nextTx := Nat.le_refl _
  opened n hn := by
    rw [isOpen_discard, Bool.and_eq_true] at hn
    exact .inl hn.1
  isOpen n _ hne := by
    have hn : n ≠ tx := by
      rintro rfl
      exact hne hq
    rw [isOpen_discard, decide_eq_true hn, Bool.and_true]
  transaction n _ hne := by
    rw [transaction_discard, if_neg]
    rintro rfl
    exact hne hq
  others n _ := by
    rw [transaction_discard]
    split
    · exact .inr rfl
    · exact .inl rfl

theorem begin (s : Store) : Frame .begin s s.begin.2 where
  tables _ := rfl
  fetches := rfl
  issued := Nat.le_refl _
  nextTx := Nat.le_succ _
  opened n _ := .inr rfl
  isOpen n hn _ := by rw [isOpen_begin, decide_eq_false (Nat.ne_of_gt hn), Bool.false_or]
  transaction n hn _ := by rw [transaction_begin, if_neg (Nat.ne_of_lt hn)]
  others n _ := by
    rw [transaction_begin]
    split
    · exact .inr rfl
    · exact .inl rfl

/-- **The frame of a call.** -/
theorem serve (q : Request) (s : Store) : Frame q s (s.serve q).2 := by
  cases q with
  | begin => exact .begin s
  | insertFile tx => exact (keep rfl s _).trans (of_active rfl rfl (fun _ => rfl) rfl (Nat.le_succ _))
  | insertChunk tx file bytes =>
    rcases serve_insertChunk_cases s tx file bytes with ⟨-, e, hserve⟩ | ⟨-, hserve⟩
    · rw [hserve]
      exact keep rfl s _
    · rw [hserve]
      exact (keep rfl s _).trans
        ((keep rfl _ _).trans (of_active rfl rfl (fun _ => rfl) rfl (Nat.le_succ _)))
  | finishFile tx file size chunks =>
    rcases serve_finishFile_cases s tx file size chunks with ⟨-, hserve⟩ | ⟨-, hserve⟩
    · rw [hserve]
      exact keep rfl s _
    · rw [hserve]
      exact refl _ s
  | deleteChunks tx file => exact keep rfl s _
  | deleteFile tx file => exact keep rfl s _
  | commit tx =>
    rcases serve_commit_cases s tx with ⟨-, e, hserve⟩ | ⟨-, hserve⟩
    · rw [hserve]
      exact discard rfl s
    · rw [hserve]
      exact (discard rfl s).trans (of_active rfl rfl nofun rfl (Nat.le_refl _))
  | rollback tx => exact discard rfl s
  | findFile id => exact refl _ s
  | findChunk id =>
    rw [serve_findChunk]
    exact of_active rfl rfl (fun _ => rfl) rfl (Nat.le_refl _)
  | updateMetadata id data =>
    rcases serve_updateMetadata_cases s id data with ⟨-, hserve⟩ | ⟨-, hserve⟩
    · rw [hserve]
      exact of_active rfl rfl nofun rfl (Nat.le_refl _)
    · rw [hserve]
      exact refl _ s

theorem afterFailure (q : Request) (s : Store) : Frame q s (s.afterFailure q) := by
  unfold Store.afterFailure
  cases hc : q.closes? with
  | none => exact refl q s
  | some tx =>
    refine discard ?_ s
    cases q with
    | commit n => exact hc
    | rollback n => exact hc
    | _ => cases hc

end Frame

end ChunkVault.Memory.Store
