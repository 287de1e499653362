/-
# ChunkVault.Proofs.Memory.Effects -- what an operation does at the call that decides it

Other operations may have changed the tables between any two calls of an operation. What is known of it when
its deciding call has been answered is its `Effect`: its answer and its change of the tables are those of an
operation that does all at once at that moment, and any store with the same rows could have been brought to
the same rows by this operation alone.

An upload is replayed with the very calls that it made, ids included. A delete is not: the numbers of rows
that it was told may be others, but it does not look at them.
-/
import ChunkVault.Proofs.Deciding
import ChunkVault.Proofs.Memory.Decisions
import ChunkVault.Proofs.Memory.Interleaving
import ChunkVault.Proofs.Memory.Undisturbed

namespace ChunkVault

open Program

/-! ## The deciding call in a run -/

variable {es fs : List Exchange}

theorem Program.Concludes.exists_ends {α : Type} {v : α} {p : Program α} (h : Concludes v p) :
    ∃ fs, p.Ends fs v ∧ calls fs = [] ∧ ∀ x ∈ fs, x.Smooth := by
  obtain ⟨fs, r, hends⟩ := p.exists_ends
  obtain ⟨rfl, hcounts⟩ := h.ends hends
  refine ⟨fs, hends, calls_of_counts hcounts, fun x hx => ?_⟩
  obtain ⟨method, failed, rfl⟩ := hcounts x hx
  exact trivial

theorem decides_of_call? {x : Exchange} {c : CallRecord} (hc : x.call? = some c)
    (h : c.request.decides = true) : x.query.decides = true := by
  obtain ⟨query, answer⟩ := x
  cases query with
  | call q =>
    obtain rfl := Option.some.inj hc
    exact h
  | race token q =>
    cases answer with
    | refused => cases hc
    | abandoned =>
      obtain rfl := Option.some.inj hc
      exact h
    | finished o =>
      obtain rfl := Option.some.inj hc
      exact h
  | fired token => cases hc
  | wait token => cases hc
  | fire names => cases hc
  | count method failed => cases hc

theorem exists_decides_of_calls {c : CallRecord} (hc : c ∈ calls es) (h : c.request.decides = true) :
    ∃ x ∈ es, x.query.decides = true := by
  obtain ⟨x, hx, hcall⟩ := List.mem_filterMap.mp hc
  exact ⟨x, hx, decides_of_call? hcall h⟩

/-- **An operation that nothing has disturbed has been decided when it ends.** -/
theorem Operation.exists_decides {op : Operation} {r : Except StorageError op.Value}
    (h : op.program.Ends es r) (hes : ∀ x ∈ es, x.Smooth) : ∃ x ∈ es, x.query.decides = true := by
  cases op with
  | save token source =>
    rcases save_smooth h hes with ⟨tx, file, rows, -, -, -, hcalls⟩ | ⟨e, tx, file, rows, l, -, -, -, -, hcalls⟩
    · exact exists_decides_of_calls (c := .ok (.commit tx) ()) (by simp [hcalls]) rfl
    · exact exists_decides_of_calls (c := .ok (.rollback tx) ()) (by simp [hcalls]) rfl
  | «open» token id =>
    obtain ⟨race, rfl, -⟩ := open_ends.mp h
    exact ⟨_, List.mem_cons_self, rfl⟩
  | setMetadata id data =>
    obtain ⟨o, rfl, -⟩ := setMetadata_ends.mp h
    exact ⟨_, List.mem_cons_self, rfl⟩
  | delete id =>
    obtain ⟨tx, chunks, files, -, hcalls⟩ := delete_smooth h hes
    exact exists_decides_of_calls (c := .ok (.commit tx) ()) (by simp [hcalls]) rfl

namespace Memory

/-- What opening a file answers, seen without stamps, is what it answers from rows without stamps. -/
theorem opened_untimed (token : Token) (found : Option FileRecord) :
    (opened token (.ok found)).map StoredFile.untimed = opened token (.ok (found.map FileRecord.untimed)) := by
  cases found <;> rfl

theorem uploaded_untimed (now : Timestamp) (t : Tables) {ws : List Write} {made : Timestamp} {file : Uuid}
    {rows : List ChunkRecord} (hws : ws = uploadWrites made file rows) :
    (ws.foldl (Write.apply now) t).untimed = (Change.upload file rows).apply t.untimed := by
  rw [hws, untimed_apply_all, untimed_uploadWrites]
  rfl

theorem removed_untimed (now : Timestamp) (t : Tables) {ws : List Write} {id : Uuid}
    (hws : ws = removalWrites id) :
    (ws.foldl (Write.apply now) t).untimed = (Change.remove id).apply t.untimed := by
  rw [hws, apply_removalWrites, t.untimed_deleteFile]
  rfl

namespace Store

variable {s s' : Store}

/-- A query is no call, or it is a call that is served. -/
theorem Served.cases {q : Query} {a : q.Answer} (h : Served q s a s') :
    (Exchange.call? ⟨q, a⟩ = none ∧ s' = s ∧ q.decides = false ∧ q.requires? = none) ∨
      ∃ r : Request, Exchange.call? ⟨q, a⟩ = some ⟨r, some (s.serve r).1⟩ ∧ s' = (s.serve r).2 ∧
        q.decides = r.decides ∧ q.requires? = r.requires? := by
  cases q with
  | call r =>
    obtain ⟨rfl, rfl⟩ := h
    exact .inr ⟨r, rfl, rfl, rfl, rfl⟩
  | race token r =>
    obtain ⟨rfl, rfl⟩ := h
    exact .inr ⟨r, rfl, rfl, rfl, rfl⟩
  | fired token => exact .inl ⟨rfl, h.2, rfl, rfl⟩
  | wait token => exact h.elim
  | fire names => exact .inl ⟨rfl, h, rfl, rfl⟩
  | count method failed => exact .inl ⟨rfl, h, rfl, rfl⟩

/-- **Rows change at a deciding call only.** -/
theorem Served.tables {q : Query} {a : q.Answer} (h : Served q s a s') (hq : q.decides = false) :
    s'.tables = s.tables := by
  rcases h.cases with ⟨-, rfl, -, -⟩ | ⟨r, -, rfl, hr, -⟩
  · rfl
  · rw [hr] at hq
    refine (Frame.serve r s).tables ?_
    cases r with
    | commit tx => cases hq
    | updateMetadata id data => cases hq
    | _ => rfl

/-! ## One operation after another -/

/-- Operations that run one after another, each with the store to itself. Apart from stamps they answer what
is noted. -/
def Sequential : Store → List Decision → Store → Prop
  | s, [], s' => s' = s
  | s, d :: ds, s'' => ∃ es v s', d.operation.program.Ends es v ∧ Along Alone s es s' ∧
      v.map d.operation.untimed = d.seen ∧ Sequential s' ds s''

theorem Sequential.append {s'' : Store} {ds ds' : List Decision} (h : s.Sequential ds s')
    (h' : s'.Sequential ds' s'') : s.Sequential (ds ++ ds') s'' := by
  induction ds generalizing s with
  | nil =>
    obtain rfl : s' = s := h
    exact h'
  | cons d ds ih =>
    obtain ⟨es, v, s₁, hends, halong, hv, h⟩ := h
    exact ⟨es, v, s₁, hends, halong, hv, ih h⟩

/-- What is known of an operation when its deciding call has been answered with `s` become `s'`: what it
answers, what it has made of the tables, where the ids of the rows were before, and that it can be replayed. -/
structure Effect (op : Operation) (v : Except StorageError op.Value) (change : Change) (s s' : Store) :
    Prop where
  decides : Decides s.tables.untimed op (v.map op.untimed) change
  tables : s'.tables.untimed = change.apply s.tables.untimed
  drawn : change.newIds = [] ∨ ∃ tx, change.newIds = newIds (s.waiting tx) ∧ s'.waiting tx = []
  replay : ∀ alone : Store, alone.faults = .none → alone.tables.untimed = s.tables.untimed →
    ∃ es v' alone', op.program.Ends es v' ∧ Along Alone alone es alone' ∧ alone'.faults = .none ∧
      alone'.tables.untimed = s'.tables.untimed ∧ v'.map op.untimed = v.map op.untimed

/-! ## Closing a transaction -/

theorem waiting_committed (s : Store) (tx : TxId) : (s.committed tx).waiting tx = [] := by
  show (s.discard tx).waiting tx = []
  rw [waiting_discard, if_pos rfl]

theorem performs_commit (hs : s.faults = .none) (tx : TxId) :
    Performs [.ok (.commit tx) ()] s (s.committed tx) := by
  have h : Performs _ s _ := .cons (q := .commit tx) s.issued s.nextTx (.nil _)
  rw [show ({ s with issued := s.issued, nextTx := s.nextTx } : Store) = s from rfl, serve_commit_quiet hs] at h
  exact h

theorem committed_faults (hs : s.faults = .none) (tx : TxId) : (s.committed tx).faults = .none := by
  show ({ s.faults with fireInCommit := none } : Faults) = .none
  rw [hs]
  rfl

theorem committed_tables (s : Store) (tx : TxId) :
    (s.committed tx).tables = (s.waiting tx).foldl (Write.apply s.now) s.tables := rfl

theorem performs_rollback (s : Store) (tx : TxId) : Performs [.ok (.rollback tx) ()] s (s.discard tx) :=
  .cons (q := .rollback tx) s.issued s.nextTx (.nil _)

variable {r : Request} {l : List CallRecord} {ls : List (List CallRecord)} {i : Nat}

/-- The last call of a run is the one that has just been served. -/
theorem last_call {m : List CallRecord} {q : Request} {v : q.Reply}
    (hcalls : calls es = l ++ [⟨r, some (s.serve r).1⟩]) (hall : calls es = m ++ [.ok q v]) :
    l = m ∧ r = q ∧ (s.serve q).1 = .ok v := by
  obtain ⟨rfl, hlast⟩ := List.append_inj' (hcalls.symm.trans hall) rfl
  obtain ⟨hrecord, -⟩ := List.cons.inj hlast
  obtain rfl : r = q := congrArg CallRecord.request hrecord
  have houtcome : (⟨r, some (s.serve r).1⟩ : CallRecord) = ⟨r, some (.ok v)⟩ := hrecord
  injection houtcome with _ houtcome
  exact ⟨rfl, rfl, Option.some.inj houtcome⟩

/-! ## What the four operations do -/

/-- **A save takes effect when it is committed**, or has none. -/
theorem effect_save {token : Token} {source : Source} {v : Except StorageError Uuid}
    (hends : (Storage.save token source).Ends es v) (hes : ∀ x ∈ es, x.Smooth)
    (hcalls : calls es = l ++ [⟨r, some (s.serve r).1⟩]) (hs : s.faults = .none) (howned : s.Owned ls)
    (hl : ls[i]? = some l) : ∃ change, Effect (.save token source) v change s (s.serve r).2 := by
  have hsound : ∀ c ∈ calls es, c.Sound := fun c => sound_of_calls hes
  rcases save_smooth hends hes with
    ⟨tx, file, rows, rfl, hend, hrows, hall⟩ | ⟨e, tx, file, rows, m, rfl, hend, hrows, hm, hall⟩
  · -- what is committed waited in the transaction of the save, and its calls tell what that is
    rw [← List.cons_append] at hall
    obtain ⟨rfl, rfl, -⟩ := last_call hcalls hall
    obtain ⟨-, hleft⟩ := howned.waits i tx _ hl fun c => writesTo?_of_uploadCalls
    obtain ⟨made, hwaiting⟩ := hleft.upload
    rw [serve_commit_quiet hs]
    refine ⟨.upload file rows, .saved hend hrows, uploaded_untimed s.now s.tables hwaiting, ?_, ?_⟩
    · refine .inr ⟨tx, ?_, waiting_committed s tx⟩
      rw [hwaiting, newIds_uploadWrites]
      rfl
    · intro alone halone htables
      have hmade : ∀ c ∈ uploadCalls tx file rows, c.Sound := fun c hc => hsound c (by simp [hall, hc])
      obtain ⟨s₁, hperforms, hs₁, htables₁, hleft₁⟩ := performs_upload halone hrows List.prefix_rfl hmade
      obtain ⟨made₁, hwaiting₁⟩ := hleft₁.upload
      refine ⟨es, _, s₁.committed tx, hends, along_alone hes ?_, committed_faults hs₁ tx, ?_, rfl⟩
      · rw [hall]
        exact hperforms.append (performs_commit hs₁ tx)
      · rw [committed_tables, uploaded_untimed s₁.now s₁.tables hwaiting₁, htables₁, htables]
        exact (uploaded_untimed s.now s.tables hwaiting).symm
  · rw [← List.cons_append] at hall
    obtain ⟨rfl, rfl, -⟩ := last_call hcalls hall
    refine ⟨.nothing, .unsaved hend, rfl, .inl rfl, ?_⟩
    intro alone halone htables
    obtain ⟨s₁, hperforms, hs₁, htables₁, -⟩ := performs_upload halone hrows hm
      fun c hc => hsound c (by simp [hall, hc])
    refine ⟨es, _, s₁.discard tx, hends, along_alone hes ?_, hs₁, ?_, rfl⟩
    · rw [hall]
      exact hperforms.append (performs_rollback s₁ tx)
    · rw [show (s₁.discard tx).tables = s₁.tables from rfl, htables₁, htables]
      rfl

/-- **Opening a file takes effect when its row is looked up.** -/
theorem effect_open {token : Token} {id : Uuid} {v : Except StorageError StoredFile}
    (hends : (Storage.open token id).Ends es v) (hes : ∀ x ∈ es, x.Smooth)
    (hcalls : calls es = l ++ [⟨r, some (s.serve r).1⟩]) :
    ∃ change, Effect (.open token id) v change s (s.serve r).2 := by
  obtain ⟨race, rfl, rfl⟩ := open_ends.mp hends
  obtain ⟨o, rfl, hsound⟩ : Exchange.Smooth ⟨.race token (.findFile id), race⟩ := hes _ List.mem_cons_self
  obtain ⟨found, rfl⟩ := hsound.eq_ok
  obtain ⟨-, rfl, hfound⟩ := last_call (m := []) (v := found) hcalls rfl
  obtain rfl : s.tables.file? id = found := Except.ok.inj hfound
  have hseen : ∀ t : Tables, (opened token (.ok (t.file? id))).map (Operation.untimed (.open token id)) =
      opened token (.ok (t.untimed.file? id)) := fun t => by
    rw [t.untimed_file?]
    exact opened_untimed token (t.file? id)
  refine ⟨.nothing, ?_, rfl, .inl rfl, ?_⟩
  · show Decides _ _ ((opened token (.ok (s.tables.file? id))).map _) _
    rw [hseen]
    exact .opened token id
  · intro alone halone htables
    refine ⟨_, _, alone, open_ends.mpr ⟨.finished (.ok (alone.tables.file? id)), rfl, rfl⟩, ?_, halone,
      htables, ?_⟩
    · exact .cons ⟨alone.issued, alone.nextTx, rfl, rfl⟩ (.cons ⟨alone.issued, alone.nextTx, rfl⟩ (.nil _))
    · show (opened token (.ok (alone.tables.file? id))).map _ = (opened token (.ok (s.tables.file? id))).map _
      rw [hseen, hseen, htables]

/-- **Annotating a file takes effect at once.** -/
theorem effect_setMetadata {id : Uuid} {data : Bytes} {v : Except StorageError Unit}
    (hends : (Storage.setMetadata id data).Ends es v)
    (hcalls : calls es = l ++ [⟨r, some (s.serve r).1⟩]) (hes : ∀ x ∈ es, x.Smooth) :
    ∃ change, Effect (.setMetadata id data) v change s (s.serve r).2 := by
  obtain ⟨o, rfl, rfl⟩ := setMetadata_ends.mp hends
  have hsound : Exchange.Smooth ⟨.call (.updateMetadata id (some data)), o⟩ := hes _ List.mem_cons_self
  obtain ⟨touched, rfl⟩ := CallRecord.Sound.eq_ok (hsound.sound rfl)
  obtain ⟨-, rfl, htouched⟩ := last_call (m := []) (v := touched) hcalls rfl
  have hreplay : ∀ {alone alone' : Store},
      alone.serve (.updateMetadata id (some data)) = (.ok touched, alone') →
      ∃ es, (Storage.setMetadata id data).Ends es (ChunkVault.annotated (.ok touched)) ∧
        Along Alone alone es alone' := by
    intro alone alone' hserve
    refine ⟨_, setMetadata_ends.mpr ⟨.ok touched, rfl, rfl⟩, ?_⟩
    refine .cons ⟨alone.issued, alone.nextTx, ?_⟩ (.cons ⟨alone'.issued, alone'.nextTx, rfl⟩ (.nil _))
    exact ⟨(congrArg Prod.fst hserve).symm, (congrArg Prod.snd hserve).symm⟩
  rcases serve_updateMetadata_cases s id (some data) with ⟨hfile, hserve⟩ | ⟨hfile, hserve⟩
  · rw [hserve] at htouched ⊢
    obtain rfl := Except.ok.inj htouched
    refine ⟨.annotate id data, .annotated (by rw [s.tables.untimed_hasFile, hfile]),
      s.tables.untimed_setMetadata s.now id (some data), .inl rfl, ?_⟩
    intro alone halone htables
    rcases serve_updateMetadata_cases alone id (some data) with ⟨hfile', hserve'⟩ | ⟨hfile', hserve'⟩
    · obtain ⟨es, hends', halong⟩ := hreplay hserve'
      refine ⟨es, _, _, hends', halong, halone, ?_, rfl⟩
      show (alone.tables.setMetadata alone.now id _).untimed = (s.tables.setMetadata s.now id _).untimed
      rw [alone.tables.untimed_setMetadata, s.tables.untimed_setMetadata, htables]
    · rw [← alone.tables.untimed_hasFile, htables, s.tables.untimed_hasFile, hfile] at hfile'
      cases hfile'
  · rw [hserve] at htouched ⊢
    obtain rfl := Except.ok.inj htouched
    refine ⟨.nothing, .unannotated (by rw [s.tables.untimed_hasFile, hfile]), rfl, .inl rfl, ?_⟩
    intro alone halone htables
    rcases serve_updateMetadata_cases alone id (some data) with ⟨hfile', hserve'⟩ | ⟨hfile', hserve'⟩
    · rw [← alone.tables.untimed_hasFile, htables, s.tables.untimed_hasFile, hfile] at hfile'
      cases hfile'
    · obtain ⟨es, hends', halong⟩ := hreplay hserve'
      exact ⟨es, _, _, hends', halong, halone, htables, rfl⟩

/-- **A delete takes effect when it is committed.** -/
theorem effect_delete {id : Uuid} {v : Except StorageError Unit} (hends : (Storage.delete id).Ends es v)
    (hes : ∀ x ∈ es, x.Smooth) (hcalls : calls es = l ++ [⟨r, some (s.serve r).1⟩]) (hs : s.faults = .none)
    (howned : s.Owned ls) (hl : ls[i]? = some l) :
    ∃ change, Effect (.delete id) v change s (s.serve r).2 := by
  obtain ⟨tx, chunks, files, rfl, hall⟩ := delete_smooth hends hes
  rw [← List.cons_append] at hall
  obtain ⟨rfl, rfl, -⟩ := last_call hcalls hall
  obtain ⟨-, hleft⟩ := howned.waits i tx _ hl fun c => writesTo?_of_removeCalls
  have hwaiting := hleft.removal
  rw [serve_commit_quiet hs]
  refine ⟨.remove id, .deleted id, removed_untimed s.now s.tables hwaiting, .inl rfl, ?_⟩
  intro alone halone htables
  obtain ⟨chunks', files', s₁, hperforms, hs₁, htables₁, hwaiting₁⟩ := performs_removal halone tx id
  obtain ⟨es', hends', hes', hcalls'⟩ := exists_delete_smooth tx id chunks' files'
  refine ⟨es', _, s₁.committed tx, hends', along_alone hes' ?_, committed_faults hs₁ tx, ?_, rfl⟩
  · rw [hcalls']
    exact hperforms.append (performs_commit hs₁ tx)
  · rw [committed_tables, removed_untimed s₁.now s₁.tables hwaiting₁, htables₁, htables]
    exact (removed_untimed s.now s.tables hwaiting).symm

/-- **Every operation takes effect at the call that decides it.** -/
theorem exists_effect {op : Operation} {past : List Exchange} {q : Query} {a : q.Answer}
    {v : Except StorageError op.Value} (hends : op.program.Ends (past ++ ⟨q, a⟩ :: fs) v)
    (hes : ∀ x ∈ past ++ ⟨q, a⟩ :: fs, x.Smooth) (hfs : calls fs = []) (hq : q.decides = true)
    (hserved : Served q s a s') (hs : s.faults = .none) (howned : s.Owned ls)
    (hl : ls[i]? = some (calls past)) : ∃ change, Effect op v change s s' := by
  rcases hserved.cases with ⟨-, -, hno, -⟩ | ⟨r, hcall, rfl, -, -⟩
  · rw [hq] at hno
    cases hno
  have hcalls : calls (past ++ ⟨q, a⟩ :: fs) = calls past ++ [⟨r, some (s.serve r).1⟩] := by
    rw [calls_append, calls_cons, hcall, hfs]
    rfl
  cases op with
  | save token source => exact effect_save hends hes hcalls hs howned hl
  | «open» token id => exact effect_open hends hes hcalls
  | setMetadata id data => exact effect_setMetadata hends hcalls hes
  | delete id => exact effect_delete hends hes hcalls hs howned hl

end Store
end Memory
end ChunkVault
