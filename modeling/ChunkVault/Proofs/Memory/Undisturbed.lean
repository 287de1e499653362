/-
# ChunkVault.Proofs.Memory.Undisturbed -- stores that serve every call as it is made

Where no switch of a store is on and no token fires, every call is made and served (`Served`). What a call
requires is there when an operation makes it, whatever other operations have done to the store, and so no
call fails (`Served.smooth`).

`Alone` is how a store serves an operation that has it to itself. The names of transactions and the ids of
rows are the store's to choose; an upload that went through amidst others can be made again, call by call and
with the ids that it was given then, over any store that is left to it alone (`performs_upload`).
-/
import ChunkVault.Proofs.Smooth
import ChunkVault.Proofs.Memory.Quiet
import ChunkVault.Proofs.Memory.Publication

namespace ChunkVault.Memory.Store

open Program

/-! ## Answers without disturbance -/

/-- How a query is answered where nothing is disturbed. No token fires, so who waits for one is not answered. -/
def Served : (q : Query) → Store → q.Answer → Store → Prop
  | .call q, s, o, s' => o = (s.serve q).1 ∧ s' = (s.serve q).2
  | .race _ q, s, race, s' => race = .finished (s.serve q).1 ∧ s' = (s.serve q).2
  | .fired _, s, answer, s' => answer = false ∧ s' = s
  | .wait _, _, _, _ => False
  | .fire _, s, _, s' => s' = s
  | .count .., s, _, s' => s' = s

variable {s s' : Store} {q : Query} {a : q.Answer} {lost : Request → Prop}

theorem Served.answers (h : Served q s a s') : Answers lost q s a s' := by
  cases q with
  | call q => exact .inl h
  | race token q =>
    obtain ⟨rfl, rfl⟩ := h
    exact .inl ⟨rfl, rfl⟩
  | fired token => exact h.2
  | wait token => exact h.elim
  | fire names => exact h
  | count method failed => exact h

theorem Served.faults (h : Served q s a s') (hs : s.faults = .none) : s'.faults = .none := by
  cases q with
  | call q =>
    obtain ⟨rfl, rfl⟩ := h
    exact serve_faults hs q
  | race token q =>
    obtain ⟨rfl, rfl⟩ := h
    exact serve_faults hs q
  | fired token =>
    obtain ⟨rfl, rfl⟩ := h
    exact hs
  | wait token => exact h.elim
  | fire names =>
    obtain rfl : s' = s := h
    exact hs
  | count method failed =>
    obtain rfl : s' = s := h
    exact hs

/-- A call succeeds, if the transaction sees the file that it requires. -/
theorem sound_of_serve {q : Request} (hs : s.faults = .none)
    (hsees : ∀ tx file, q.requires? = some (tx, file) → s.Sees tx file) :
    CallRecord.Sound ⟨q, some (s.serve q).1⟩ := by
  cases q with
  | insertFile tx => exact ⟨s.issued, rfl⟩
  | insertChunk tx file bytes => exact ⟨s.issued, by rw [(insertChunk_sees hs (hsees tx file rfl) bytes).1]⟩
  | finishFile tx file size ids => exact ⟨(), by rw [finishFile_sees (hsees tx file rfl)]⟩
  | commit tx => exact ⟨(), by rw [commit_quiet hs]⟩
  | findChunk id => exact ⟨_, by rw [findChunk_quiet hs]⟩
  | _ => exact ⟨_, rfl⟩

/-- **Nothing fails that is served**, if the transaction sees the file that it requires. -/
theorem Served.smooth (h : Served q s a s') (hs : s.faults = .none)
    (hsees : ∀ tx file, q.requires? = some (tx, file) → s.Sees tx file) : Exchange.Smooth ⟨q, a⟩ := by
  cases q with
  | call q =>
    obtain ⟨rfl, rfl⟩ := h
    exact sound_of_serve hs hsees
  | race token q =>
    obtain ⟨rfl, rfl⟩ := h
    exact ⟨_, rfl, sound_of_serve hs hsees⟩
  | fired token => exact h.1
  | wait token => exact h.elim
  | fire names => exact trivial
  | count method failed => exact trivial

/-- The writes of an upload keep its file in sight. -/
theorem keepsFile_of_left {tx : TxId} {file : Uuid} {l : List CallRecord} {ws : List Write}
    (hleft : LeftBy l ws) (hsound : ∀ c ∈ l, c.Sound) (hwrites : ∀ c ∈ l, c.request.writesTo? = some tx)
    (hkeeps : ∀ c ∈ l, ∀ id, c.request ≠ .deleteFile tx id) {there : Bool}
    (h : .ok (.insertFile tx) file ∈ l ∨ there = true) : ws.foldl (Write.keepsFile file) there = true := by
  induction l generalizing ws there with
  | nil =>
    obtain rfl : ws = [] := hleft
    exact h.resolve_left List.not_mem_nil
  | cons c l ih =>
    obtain ⟨more, rest, rfl, hmore, hrest⟩ := hleft
    obtain ⟨v, hv⟩ := (hsound c List.mem_cons_self).exists_ok
    obtain ⟨w, rfl, hw⟩ := hmore v hv
    rw [List.singleton_append, List.foldl_cons]
    refine ih hrest (fun d hd => hsound d (List.mem_cons_of_mem _ hd))
      (fun d hd => hwrites d (List.mem_cons_of_mem _ hd)) (fun d hd => hkeeps d (List.mem_cons_of_mem _ hd)) ?_
    -- either the file is inserted later, or it is there after this write
    have hnow : c = .ok (.insertFile tx) file ∨ there = true → w.keepsFile file there = true := by
      have hwrite := hwrites c List.mem_cons_self
      have hkeep := hkeeps c List.mem_cons_self
      have hrequest : c = .ok (.insertFile tx) file → c.request = .insertFile tx := congrArg CallRecord.request
      intro hor
      cases hw with
      | insertFile n id now =>
        show (if id = file then true else there) = true
        rcases hor with heq | hthere
        · cases heq
          exact if_pos rfl
        · rw [hthere, ite_self]
      | insertChunk n owner bytes id => exact hor.resolve_left fun heq => nomatch hrequest heq
      | finishFile n id size ids => exact hor.resolve_left fun heq => nomatch hrequest heq
      | deleteChunks n id rows => exact hor.resolve_left fun heq => nomatch hrequest heq
      | deleteFile n id rows =>
        obtain rfl := Option.some.inj hwrite
        exact absurd rfl (hkeep id)
    rcases h with hmem | hthere
    · rcases List.mem_cons.mp hmem with heq | hmem
      · exact .inr (hnow (.inl heq.symm))
      · exact .inl hmem
    · exact .inr (hnow (.inr hthere))

/-- **A transaction sees the file that an upload has inserted**, whatever the tables hold. -/
theorem sees_of_inserts {tx : TxId} {file : Uuid} {l : List CallRecord} (h : Inserts tx file l)
    (hsound : ∀ c ∈ l, c.Sound) (hopen : s.isOpen tx = true) (hleft : LeftBy l (s.waiting tx)) :
    s.Sees tx file :=
  ⟨hopen, keepsFile_of_left hleft hsound h.writes h.keeps (.inl h.inserted)⟩

/-! ## A store for oneself -/

/-- How a query is answered to an operation that has the store to itself. Which names transactions get, and
which ids rows get, is up to the store. -/
def Alone (q : Query) (s : Store) (a : q.Answer) (s' : Store) : Prop :=
  ∃ issued nextTx, Served q { s with issued := issued, nextTx := nextTx } a s'

/-- These calls are made one after another, on a store that nobody else calls. -/
inductive Performs : List CallRecord → Store → Store → Prop
  | nil (s : Store) : Performs [] s s
  | cons {q : Request} {l : List CallRecord} {s s' : Store} (issued : Nat) (nextTx : TxId)
      (hs : Performs l (({ s with issued := issued, nextTx := nextTx } : Store).serve q).2 s') :
      Performs (⟨q, some (({ s with issued := issued, nextTx := nextTx } : Store).serve q).1⟩ :: l) s s'

theorem Performs.append {l m : List CallRecord} {s s' s'' : Store} (h : Performs l s s')
    (hm : Performs m s' s'') : Performs (l ++ m) s s'' := by
  induction h with
  | nil s => exact hm
  | cons issued nextTx _ ih => exact .cons issued nextTx (ih hm)

/-- **A run that nothing disturbed can be had alone**, if its calls can be made. -/
theorem along_alone {es : List Exchange} (hes : ∀ x ∈ es, x.Smooth) (h : Performs (calls es) s s') :
    Along Alone s es s' := by
  induction es generalizing s with
  | nil =>
    cases h with
    | nil => exact .nil _
  | cons x es ih =>
    have hx := hes x List.mem_cons_self
    replace ih := fun s h => @ih s (fun y hy => hes y (List.mem_cons_of_mem _ hy)) h
    obtain ⟨query, answer⟩ := x
    cases query with
    | call q =>
      cases h with
      | cons issued nextTx h => exact .cons ⟨issued, nextTx, rfl, rfl⟩ (ih _ h)
    | race token q =>
      obtain ⟨o, rfl, -⟩ := hx
      cases h with
      | cons issued nextTx h => exact .cons ⟨issued, nextTx, rfl, rfl⟩ (ih _ h)
    | fired token => exact .cons ⟨s.issued, s.nextTx, hx, rfl⟩ (ih _ h)
    | wait token => exact hx.elim
    | fire names => exact .cons ⟨s.issued, s.nextTx, rfl⟩ (ih _ h)
    | count method failed => exact .cons ⟨s.issued, s.nextTx, rfl⟩ (ih _ h)

theorem Sees.with_ids {tx : TxId} {file : Uuid} (h : s.Sees tx file) (issued : Nat) (nextTx : TxId) :
    ({ s with issued := issued, nextTx := nextTx } : Store).Sees tx file := ⟨h.isOpen, h.visible⟩

/-- A call that requires a file keeps it in sight. -/
theorem Sees.serve {tx : TxId} {file : Uuid} {q : Request} (hs : s.faults = .none) (h : s.Sees tx file)
    (hq : q.requires? = some (tx, file)) : (s.serve q).2.Sees tx file := by
  cases q with
  | insertChunk n id bytes =>
    obtain ⟨rfl, rfl⟩ := Prod.mk.inj (Option.some.inj hq)
    exact (insertChunk_sees hs h bytes).2
  | finishFile n id size ids =>
    obtain ⟨rfl, rfl⟩ := Prod.mk.inj (Option.some.inj hq)
    rcases serve_finishFile_cases s n id size ids with ⟨-, hserve⟩ | ⟨hhidden, -⟩
    · rw [hserve]
      exact h.push rfl
    · rw [h.visible] at hhidden
      cases hhidden
  | _ => cases hq

/-- A call that succeeded once succeeds again, with the id that it was given. -/
theorem exists_issued {tx : TxId} {file : Uuid} {c : CallRecord} (hs : s.faults = .none)
    (h : s.Sees tx file) (hc : c.Sound) (hq : c.request.requires? = some (tx, file)) :
    ∃ n, c = ⟨c.request, some (({ s with issued := n } : Store).serve c.request).1⟩ := by
  obtain ⟨q, outcome⟩ := c
  cases q with
  | insertChunk n id bytes =>
    obtain ⟨rfl, rfl⟩ := Prod.mk.inj (Option.some.inj hq)
    obtain ⟨k, rfl⟩ := hc
    exact ⟨k, by rw [(insertChunk_sees (s := { s with issued := k }) hs ⟨h.isOpen, h.visible⟩ bytes).1]⟩
  | finishFile n id size ids =>
    obtain ⟨rfl, rfl⟩ := Prod.mk.inj (Option.some.inj hq)
    obtain ⟨v, rfl⟩ := hc
    exact ⟨s.issued, by rw [finishFile_sees h]⟩
  | _ => cases hq

theorem writesTo?_of_requires? {tx : TxId} {file : Uuid} {q : Request}
    (hq : q.requires? = some (tx, file)) : q.writesTo? = some tx := by
  cases q with
  | insertChunk n id bytes => exact congrArg some (Prod.mk.inj (Option.some.inj hq)).1
  | finishFile n id size ids => exact congrArg some (Prod.mk.inj (Option.some.inj hq)).1
  | _ => cases hq

/-- What an upload says of its file can be said again, once the file is there. -/
theorem performs_writes {tx : TxId} {file : Uuid} {l : List CallRecord} (hs : s.faults = .none)
    (hsees : s.Sees tx file) (hl : ∀ c ∈ l, c.Sound ∧ c.request.requires? = some (tx, file)) :
    ∃ s' ws, Performs l s s' ∧ s'.faults = .none ∧ s'.tables = s.tables ∧
      s'.waiting tx = s.waiting tx ++ ws ∧ LeftBy l ws := by
  induction l generalizing s with
  | nil => exact ⟨s, [], .nil s, hs, rfl, (List.append_nil _).symm, rfl⟩
  | cons c l ih =>
    obtain ⟨hsound, hreq⟩ := hl c List.mem_cons_self
    have hwrites := writesTo?_of_requires? hreq
    obtain ⟨n, hn⟩ := exists_issued hs hsees hsound hreq
    obtain ⟨more, hadds⟩ := adds_serve (s := { s with issued := n }) hwrites hsees.isOpen
    have hframe := Frame.serve c.request { s with issued := n }
    obtain ⟨s', ws, hperforms, hs', htables, hwaiting, hleft⟩ :=
      ih (serve_faults (s := { s with issued := n }) hs c.request) ((hsees.with_ids n s.nextTx).serve hs hreq)
        fun d hd => hl d (List.mem_cons_of_mem _ hd)
    refine ⟨s', more ++ ws, ?_, hs', ?_, ?_, ?_⟩
    · rw [hn]
      exact .cons n s.nextTx hperforms
    · exact htables.trans (hframe.tables (publishes_of_writesTo? hwrites))
    · rw [hwaiting, hadds.waiting, List.append_assoc]
      rfl
    · refine ⟨more, ws, rfl, ?_, hleft⟩
      rw [hn]
      exact hadds.leaves

/-- The calls of an upload after the first one require its file. -/
theorem requires?_of_uploadCalls {tx : TxId} {file : Uuid} {content : List Bytes} {rows : List ChunkRecord}
    (hrows : RowsOf file content rows) {c : CallRecord}
    (hc : c ∈ insertCalls tx rows ++ [finishCall tx file rows]) : c.request.requires? = some (tx, file) := by
  rcases List.mem_append.mp hc with hc | hc
  · obtain ⟨row, hrow, rfl⟩ := List.mem_map.mp hc
    show some (tx, row.fileId) = _
    rw [hrows.owner row hrow]
  · rw [List.mem_singleton.mp hc]
    rfl

/-- A transaction that is begun alone can have the name that it has had amidst others. -/
theorem performs_begin (s : Store) (tx : TxId) :
    ∃ s₁, (∀ l s', Performs l s₁ s' → Performs (.ok .begin tx :: l) s s') ∧ s₁.isOpen tx = true ∧
      s₁.waiting tx = [] ∧ s₁.faults = s.faults ∧ s₁.tables = s.tables := by
  refine ⟨({ s with nextTx := tx } : Store).begin.2, fun l s' h => .cons s.issued tx h, ?_, ?_, rfl, rfl⟩
  · rw [isOpen_begin]
    simp
  · rw [waiting, transaction_begin, if_pos rfl]
    rfl

/-- **An upload that went through can be made again**, as far as it came. -/
theorem performs_upload {tx : TxId} {file : Uuid} {content : List Bytes} {rows : List ChunkRecord}
    {l : List CallRecord} (hs : s.faults = .none) (hrows : RowsOf file content rows)
    (hl : l <+: uploadCalls tx file rows) (hsound : ∀ c ∈ l, c.Sound) :
    ∃ s', Performs (.ok .begin tx :: l) s s' ∧ s'.faults = .none ∧ s'.tables = s.tables ∧
      LeftBy l (s'.waiting tx) := by
  obtain ⟨s₁, hbegin, hopen, hempty, hfaults, htables⟩ := performs_begin s tx
  rw [hs] at hfaults
  cases l with
  | nil => exact ⟨s₁, hbegin _ _ (.nil s₁), hfaults, htables, hempty⟩
  | cons c l =>
    obtain ⟨rfl, hrest⟩ := List.cons_prefix_cons.mp hl
    obtain ⟨n, hn⟩ := hsound _ List.mem_cons_self
    obtain rfl : file = Uuid.issue n := Except.ok.inj (Option.some.inj hn)
    obtain ⟨-, hsees⟩ := @insertFile_sees { s₁ with issued := n } tx hopen
    obtain ⟨more, hadds⟩ := adds_serve (q := .insertFile tx) (s := { s₁ with issued := n }) rfl hopen
    obtain ⟨s', ws, hperforms, hs', htables', hwaiting, hleft⟩ :=
      performs_writes (serve_faults (s := { s₁ with issued := n }) hfaults (.insertFile tx)) hsees
        fun c hc => ⟨hsound c (List.mem_cons_of_mem _ hc), requires?_of_uploadCalls hrows (hrest.subset hc)⟩
    refine ⟨s', hbegin _ _ (.cons n s₁.nextTx hperforms), hs', htables'.trans htables, ?_⟩
    rw [hwaiting, hadds.waiting]
    show LeftBy _ (s₁.waiting tx ++ more ++ ws)
    rw [hempty, List.nil_append]
    exact ⟨more, ws, rfl, hadds.leaves, hleft⟩

/-- **A removal can be made again**; it may be told other numbers of rows. -/
theorem performs_removal (hs : s.faults = .none) (tx : TxId) (id : Uuid) :
    ∃ chunks files s', Performs (.ok .begin tx :: removeCalls tx id chunks files) s s' ∧ s'.faults = .none ∧
      s'.tables = s.tables ∧ s'.waiting tx = removalWrites id := by
  obtain ⟨s₁, hbegin, hopen, hempty, hfaults, htables⟩ := performs_begin s tx
  have hopen' : (s₁.push tx (.deleteChunks id)).isOpen tx = true := (isOpen_push s₁ tx _ tx).trans hopen
  refine ⟨_, _, _, hbegin _ _ (.cons (q := .deleteChunks tx id) s₁.issued s₁.nextTx
    (.cons (q := .deleteFile tx id) s₁.issued s₁.nextTx (.nil _))), hfaults.trans hs, htables, ?_⟩
  show ((s₁.push tx (.deleteChunks id)).push tx (.deleteFile id)).waiting tx = removalWrites id
  rw [waiting_push hopen', waiting_push hopen, hempty]
  rfl

end ChunkVault.Memory.Store
