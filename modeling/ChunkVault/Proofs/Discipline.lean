/-
# ChunkVault.Proofs.Discipline -- how the operations treat a transaction

What is asked of anyone who opens a transaction: to make the writes of it one after another, to stop at the
first that fails, and then to close it, with a commit if all of them succeeded and with a rollback if not.
`Disciplined` says so of the calls of an operation, and `ClosedOnce` what follows for the transaction: it is
not left open, it is not closed twice, and nothing is committed after a call that failed.

Nothing is assumed about the answers, so this holds over every store, whichever calls fail there or are given
up on the way, and of every source and every token.
-/
import ChunkVault.Proofs.Operations
import ChunkVault.Proofs.Stopping

namespace ChunkVault

open Program

/-- The calls of an operation that opens a transaction. `Script` are the writes that it has to make there, and
`cancelled` says that it was told to give up. -/
inductive Disciplined (Script : TxId → List CallRecord → Prop) (cancelled : Prop) : List CallRecord → Prop
  | untried : Disciplined Script cancelled []
  | unbegun {c : CallRecord} (hreq : c.request = .begin) (hfail : c.Failed) :
      Disciplined Script cancelled [c]
  | closed {tx : TxId} {script l : List CallRecord} {close : CallRecord} (hscript : Script tx script)
      (hl : Attempts l script ∨ l = script) (hclose : close.request.closes? = some tx)
      (hawaited : close.outcome.isSome) (hcommit : close.request = .commit tx ↔ Script tx l ∧ ¬cancelled) :
      Disciplined Script cancelled (.ok .begin tx :: (l ++ [close]))

/-- The transaction is closed by the last of the calls and by no other, and it is committed only if all calls
before that succeeded. -/
def ClosedOnce (tx : TxId) (l : List CallRecord) : Prop :=
  ∃ front close, l = front ++ [close] ∧ close.request.closes? = some tx ∧ close.outcome.isSome ∧
    (∀ c ∈ front, c.request.closes? = none) ∧
    ∀ tx', close.request = .commit tx' → ∀ c ∈ front, ∃ v, c.outcome = some (.ok v)

/-! ## Scripts -/

/-- Calls that break a script off are fewer than it has, or one of them failed. -/
theorem Attempts.exists_failed {l script : List CallRecord} (h : Attempts l script)
    (hlength : l.length = script.length) : ∃ c ∈ l, c.Failed := by
  obtain ⟨done, next, rest, rfl, rfl | ⟨c, rfl, -, hfail⟩⟩ := h
  · rw [List.length_append, List.length_cons] at hlength
    omega
  · exact ⟨c, List.mem_append_right _ (List.mem_singleton.mpr rfl), hfail⟩

/-- The scripts of an operation: calls that succeeded within one transaction, and always as many. -/
structure Scripted (Script : TxId → List CallRecord → Prop) : Prop where
  length : ∀ tx l l', Script tx l → Script tx l' → l.length = l'.length
  writesTo? : ∀ tx l, Script tx l → ∀ c ∈ l, c.request.writesTo? = some tx
  succeeded : ∀ tx l, Script tx l → ∀ c ∈ l, ∃ v, c.outcome = some (.ok v)

section Scripted

variable {Script : TxId → List CallRecord → Prop} {cancelled : Prop} {tx : TxId} {l script : List CallRecord}

/-- A script that is broken off is none. -/
theorem Scripted.not_attempted (hs : Scripted Script) (hscript : Script tx script)
    (hl : Attempts l script) : ¬Script tx l := by
  intro hwhole
  obtain ⟨c, hc, hfail⟩ := hl.exists_failed (hs.length tx l script hwhole hscript)
  obtain ⟨v, hv⟩ := hs.succeeded tx l hwhole c hc
  exact hfail v hv

/-- **A transaction that is treated with discipline is closed once.** -/
theorem Disciplined.closedOnce (hs : Scripted Script) (h : Disciplined Script cancelled l)
    (hbegin : .ok .begin tx ∈ l) : ClosedOnce tx l := by
  cases h with
  | untried => exact absurd hbegin List.not_mem_nil
  | unbegun hreq hfail =>
    rw [← List.mem_singleton.mp hbegin] at hfail
    exact absurd rfl (hfail tx)
  | @closed n script l close hscript hl hclose hawaited hcommit =>
    have hwrites : ∀ c ∈ l, c.request.writesTo? = some n := by
      rcases hl with hl | rfl
      · exact hl.writesTo? (hs.writesTo? n script hscript)
      · exact hs.writesTo? n l hscript
    -- no other call opens a transaction
    obtain rfl : n = tx := by
      rcases List.mem_cons.mp hbegin with heq | hmem
      · cases heq
        rfl
      · rcases List.mem_append.mp hmem with hmem | hmem
        · cases hwrites _ hmem
        · rw [← List.mem_singleton.mp hmem] at hclose
          cases hclose
    refine ⟨.ok .begin n :: l, close, rfl, hclose, hawaited, ?_, ?_⟩
    · intro c hc
      rcases List.mem_cons.mp hc with rfl | hc
      · rfl
      · exact closes?_of_writesTo? (hwrites c hc)
    · intro tx' hreq c hc
      rw [hreq] at hclose
      obtain rfl := Option.some.inj hclose
      rcases List.mem_cons.mp hc with rfl | hc
      · exact ⟨_, rfl⟩
      · exact hs.succeeded _ l (hcommit.mp hreq).1 c hc

end Scripted

theorem scripted_upload (source : Source) : Scripted (WholeUpload source) where
  length := by
    rintro tx _ _ ⟨file, rows, hrows, rfl⟩ ⟨file', rows', hrows', rfl⟩
    have hcount : rows.length = rows'.length := by
      rw [← List.length_map (·.bytes), hrows.bytes, ← hrows'.bytes, List.length_map]
    simp [uploadCalls, insertCalls, hcount]
  writesTo? := by
    rintro tx _ ⟨file, rows, -, rfl⟩ c hc
    exact writesTo?_of_uploadCalls hc
  succeeded := by
    rintro tx _ ⟨file, rows, -, rfl⟩ c hc
    rcases List.mem_cons.mp hc with rfl | hc
    · exact ⟨_, rfl⟩
    · rcases List.mem_append.mp hc with hc | hc
      · obtain ⟨row, -, rfl⟩ := List.mem_map.mp hc
        exact ⟨_, rfl⟩
      · rw [List.mem_singleton.mp hc]
        exact ⟨_, rfl⟩

theorem scripted_removal (id : Uuid) : Scripted (WholeRemoval id) where
  length := by
    rintro tx _ _ ⟨chunks, files, rfl⟩ ⟨chunks', files', rfl⟩
    rfl
  writesTo? := by
    rintro tx _ ⟨chunks, files, rfl⟩ c hc
    exact writesTo?_of_removeCalls hc
  succeeded := by
    rintro tx _ ⟨chunks, files, rfl⟩ c hc
    rcases List.mem_cons.mp hc with rfl | hc
    · exact ⟨_, rfl⟩
    · rw [List.mem_singleton.mp hc]
      exact ⟨_, rfl⟩

/-! ## Saving and deleting -/

section Runs

variable {es : List Exchange}

/-- A save that comes to its commit has not found its token to have fired. -/
theorem unfired_of_commit {token : Token} {source : Source} {r : Except StorageError Uuid}
    (h : (Storage.save token source).Ends es r) {c : CallRecord} (hc : c ∈ calls es) {tx : TxId}
    (hcommit : c.request = .commit tx) : (⟨.fired token, true⟩ : Exchange) ∉ es := by
  cases save_stops h with
  | stopped hes hpass hunfailed hstops hcontext htail hnone => exact absurd hcommit (hnone.commit c hc tx)
  | faulted hes hpass hfailed htail hnone => exact absurd hcommit (hnone.commit c hc tx)
  | settled hes hpass hfinished hfile =>
    rw [hes]
    intro hmem
    rcases List.mem_append.mp hmem with hmem | hmem
    · cases (hpass _ hmem).2
    · simp at hmem

/-- A save begins with the call to begin. If that is never made, the token had fired before. -/
theorem refused_of_save {token : Token} {source : Source} {r : Except StorageError Uuid}
    (h : (Storage.save token source).Ends es r) (hnone : calls es = []) :
    ∃ rest, es = ⟨.race token .begin, .refused⟩ :: rest := by
  unfold Storage.save at h
  obtain ⟨run, rfl, hrun⟩ := ends_counted.mp h
  simp only [bind_eq, ends_bind] at hrun
  obtain ⟨es₁, es₂, o, rfl, hbegin, -⟩ := hrun
  obtain ⟨race, rfl, rfl⟩ := ends_race.mp hbegin
  cases race with
  | refused => exact ⟨_, rfl⟩
  | abandoned => cases hnone
  | finished o => cases hnone

/-- **A save treats its transaction with discipline.** -/
theorem save_disciplined {token : Token} {source : Source} {r : Except StorageError Uuid}
    (h : (Storage.save token source).Ends es r) :
    Disciplined (WholeUpload source) (⟨.fired token, true⟩ ∈ es) (calls es) := by
  cases save_ends h with
  | unbegun hcalls _ =>
    obtain hnil | ⟨c, hone, hreq, hfail⟩ := hcalls
    · rw [hnil]
      exact .untried
    · rw [hone]
      exact .unbegun hreq hfail
  | @rolledBack e tx file rows l o hrows hl hcalls _ =>
    rw [hcalls]
    refine .closed ⟨file, rows, hrows, rfl⟩ (hl.imp_right And.left) rfl rfl ⟨nofun, ?_⟩
    rintro ⟨hwhole, hunfired⟩
    rcases hl with hl | ⟨-, hfired⟩
    · exact absurd hwhole ((scripted_upload source).not_attempted ⟨file, rows, hrows, rfl⟩ hl)
    · exact absurd hfired hunfired
  | @committed tx file rows o hrows _ hcalls _ =>
    have hlast : (⟨.commit tx, some o⟩ : CallRecord) ∈ calls es := by
      rw [hcalls]
      exact List.mem_cons_of_mem _ (List.mem_append_right _ (List.mem_singleton.mpr rfl))
    have hunfired := unfired_of_commit h hlast rfl
    rw [hcalls]
    exact .closed ⟨file, rows, hrows, rfl⟩ (.inr rfl) rfl rfl
      ⟨fun _ => ⟨⟨file, rows, hrows, rfl⟩, hunfired⟩, fun _ => rfl⟩

/-- **A delete treats its transaction with discipline.** Nothing can cancel it. -/
theorem delete_disciplined {id : Uuid} {r : Except StorageError Unit} (h : (Storage.delete id).Ends es r) :
    Disciplined (WholeRemoval id) False (calls es) ∧ calls es ≠ [] := by
  cases delete_ends h with
  | unbegun hcalls hreq hfail =>
    rw [hcalls]
    exact ⟨.unbegun hreq hfail, List.cons_ne_nil _ _⟩
  | @rolledBack e tx chunks files l o hl hcalls =>
    rw [hcalls]
    refine ⟨.closed ⟨chunks, files, rfl⟩ (.inl hl) rfl rfl ⟨nofun, fun hwhole => ?_⟩, List.cons_ne_nil _ _⟩
    exact absurd hwhole.1 ((scripted_removal id).not_attempted ⟨chunks, files, rfl⟩ hl)
  | @committed tx chunks files o hcalls =>
    rw [hcalls]
    exact ⟨.closed ⟨chunks, files, rfl⟩ (.inr rfl) rfl rfl
      ⟨fun _ => ⟨⟨chunks, files, rfl⟩, not_false⟩, fun _ => rfl⟩, List.cons_ne_nil _ _⟩

end Runs

/-! ## All operations -/

/-- What the calls of each of the operations have to be: those of one transaction, which is told to give up
if its token is found to have fired, or point calls. -/
def Operation.Discipline : Operation → List Exchange → Prop
  | save token source, es =>
    Disciplined (WholeUpload source) (⟨.fired token, true⟩ ∈ es) (calls es) ∧
      (calls es = [] → ∃ rest, es = ⟨.race token .begin, .refused⟩ :: rest)
  | delete id, es => Disciplined (WholeRemoval id) False (calls es) ∧ calls es ≠ []
  | «open» .., es | setMetadata .., es => ∀ c ∈ calls es, c.request.isPoint = true

/-- **Every operation keeps the discipline**, and closes what it has opened. -/
theorem Operation.disciplined {op : Operation} {es : List Exchange} {r : Except StorageError op.Value}
    (h : op.program.Ends es r) :
    op.Discipline es ∧ ∀ tx, .ok .begin tx ∈ calls es → ClosedOnce tx (calls es) := by
  -- without a transaction there is nothing to close
  have hpoint : op.program.Asks Query.IsPoint → (∀ c ∈ calls es, c.request.isPoint = true) ∧
      ∀ tx, .ok .begin tx ∈ calls es → ClosedOnce tx (calls es) := fun hasks => by
    have hall := fun c => @isPoint_of_calls _ (hasks.queries h) c
    exact ⟨fun c hc => hall c hc, fun tx hbegin => nomatch hall _ hbegin⟩
  cases op with
  | save token source =>
    have hsave := save_disciplined h
    exact ⟨⟨hsave, refused_of_save h⟩, fun tx => hsave.closedOnce (scripted_upload source)⟩
  | «open» token id => exact hpoint (open_asks token id)
  | setMetadata id data => exact hpoint (setMetadata_asks id data)
  | delete id =>
    have hdelete := delete_disciplined h
    exact ⟨hdelete, fun tx => hdelete.1.closedOnce (scripted_removal id)⟩

/-- A save of one byte whose token fires when all is written: it rolls back, although no call failed. -/
theorem Operation.disciplined_fired_at_last :
    let token : Token := .shared "stop"
    let es : List Exchange :=
      [⟨.race token .begin, .finished (.ok 7)⟩, ⟨.race token (.insertFile 7), .finished (.ok (.issue 0))⟩,
        ⟨.fired token, false⟩, ⟨.race token (.insertChunk 7 (.issue 0) [97]), .finished (.ok (.issue 1))⟩,
        ⟨.race token (.finishFile 7 (.issue 0) 1 [.issue 1]), .finished (.ok ())⟩, ⟨.fired token, true⟩,
        ⟨.call (.rollback 7), .ok ()⟩, ⟨.count .save true, ()⟩]
    (Storage.save token [.bytes [97]]).Ends es (.error .cancelled) ∧
      (Operation.save token [.bytes [97]]).Discipline es ∧ ClosedOnce 7 (calls es) := by
  intro token es
  have hends : (Storage.save token [.bytes [97]]).Ends es (.error .cancelled) :=
    ⟨_, _, rfl, _, _, rfl, _, _, rfl, _, _, rfl, _, _, rfl, _, _, rfl, _, _, rfl, _, _, rfl, rfl, rfl⟩
  obtain ⟨hdiscipline, hclosed⟩ := @Operation.disciplined (.save token [.bytes [97]]) es _ hends
  exact ⟨hends, hdiscipline, hclosed 7 List.mem_cons_self⟩

end ChunkVault
