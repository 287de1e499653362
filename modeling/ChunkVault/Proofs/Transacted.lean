/-
# ChunkVault.Proofs.Transacted -- saving and deleting as one transaction each

A save and a delete open one transaction, make their writes in it, and close it with exactly one call,
after which they make no other. They commit only what is whole: of a save all the calls of an upload, of
a delete both removals. Otherwise they roll back. `SaveRun` and `DeleteRun` list the ways in which a run
can go, for every store and every token; `Transacted` is what the two have in common.
-/
import ChunkVault.Storage
import ChunkVault.Proofs.Upload

namespace ChunkVault

open Program

/-- The transaction that a call adds a write to. -/
def Request.writesTo? : Request → Option TxId
  | insertFile tx | insertChunk tx .. | finishFile tx .. | deleteChunks tx _ | deleteFile tx _ => some tx
  | begin | commit _ | rollback _ | findFile _ | findChunk _ | updateMetadata .. => none

/-- The transaction that a call is made in. -/
def Request.within? (q : Request) : Option TxId := q.writesTo?.or q.closes?

/-- Whether a call can change what is committed. -/
def Request.publishes : Request → Bool
  | commit _ | updateMetadata .. => true
  | _ => false

/-- The calls of an operation that is one transaction, and that commits only what is whole. -/
inductive Transacted (Whole : TxId → List CallRecord → Prop) : List CallRecord → Prop
  | untried : Transacted Whole []
  | unbegun {c : CallRecord} (hreq : c.request = .begin) (hfail : c.Failed) : Transacted Whole [c]
  | rolledBack {tx : TxId} {l : List CallRecord} (hl : ∀ c ∈ l, c.request.writesTo? = some tx)
      (o : (Request.rollback tx).Outcome) :
      Transacted Whole (.ok .begin tx :: (l ++ [⟨.rollback tx, some o⟩]))
  | committed {tx : TxId} {l : List CallRecord} (hl : ∀ c ∈ l, c.request.writesTo? = some tx)
      (hwhole : Whole tx l) (o : (Request.commit tx).Outcome) :
      Transacted Whole (.ok .begin tx :: (l ++ [⟨.commit tx, some o⟩]))

theorem publishes_of_writesTo? {q : Request} {tx : TxId} (h : q.writesTo? = some tx) :
    q.publishes = false := by
  cases q with
  | commit n => cases h
  | updateMetadata id data => cases h
  | _ => rfl

theorem closes?_of_writesTo? {q : Request} {tx : TxId} (hq : q.writesTo? = some tx) : q.closes? = none := by
  cases q with
  | commit n => cases hq
  | rollback n => cases hq
  | _ => rfl

/-- Only the last call of a transaction can change what is committed. -/
theorem Transacted.publishes_front {Whole : TxId → List CallRecord → Prop} {l m : List CallRecord}
    (h : Transacted Whole (l ++ m)) (hm : m ≠ []) {c : CallRecord} (hc : c ∈ l) :
    c.request.publishes = false := by
  -- the list is cut before its last call, which is where a transaction is closed
  rw [← List.dropLast_concat_getLast hm, ← List.append_assoc] at h
  have hc' : c ∈ l ++ m.dropLast := List.mem_append_left _ hc
  generalize hall : l ++ m.dropLast ++ [m.getLast hm] = all at h
  cases h with
  | untried => exact absurd hall (by simp)
  | @unbegun c' hreq hfail =>
    rw [← List.nil_append [c']] at hall
    rw [(List.append_inj' hall rfl).1] at hc'
    exact absurd hc' List.not_mem_nil
  | rolledBack hl o | committed hl _ o =>
    rw [← List.cons_append] at hall
    rw [(List.append_inj' hall rfl).1] at hc'
    rcases List.mem_cons.mp hc' with rfl | hc'
    · rfl
    · exact publishes_of_writesTo? (hl c hc')

/-! ## The next call -/

/-- Whether a call is made outside of any transaction. -/
def Request.isPoint : Request → Bool
  | findFile _ | findChunk _ | updateMetadata .. => true
  | _ => false

/-- What a call can be that follows these calls in an operation: one of the steps of a transaction, in their
order, or one of several calls without a transaction. -/
inductive NextCall (Whole : TxId → List CallRecord → Prop) (l : List CallRecord) (c : CallRecord) : Prop
  | begin (hl : l = []) (hreq : c.request = .begin)
  | write {tx : TxId} {m : List CallRecord} (hl : l = .ok .begin tx :: m)
      (hreq : c.request.writesTo? = some tx)
  | rollback {tx : TxId} {m : List CallRecord} (hl : l = .ok .begin tx :: m)
      (hreq : c.request = .rollback tx)
  | commit {tx : TxId} {m : List CallRecord} (hl : l = .ok .begin tx :: m)
      (hm : ∀ d ∈ m, d.request.writesTo? = some tx) (hwhole : Whole tx m) (hreq : c.request = .commit tx)
  | point (hl : ∀ d ∈ l, d.request.isPoint = true) (hreq : c.request.isPoint = true)

/-- A call in a list that one more call ends is that last one, or one of those before. -/
theorem append_cons_eq_concat {l m rest : List CallRecord} {c last : CallRecord}
    (h : l ++ c :: rest = m ++ [last]) : l = m ∧ c = last ∨ ∃ rest', m = l ++ c :: rest' := by
  by_cases hrest : rest = []
  · rw [hrest] at h
    obtain ⟨hlm, hc⟩ := List.append_inj' h rfl
    exact .inl ⟨hlm, (List.cons.inj hc).1⟩
  · rw [← List.dropLast_concat_getLast hrest, ← List.cons_append, ← List.append_assoc] at h
    obtain ⟨hm, -⟩ := List.append_inj' h rfl
    exact .inr ⟨_, hm.symm⟩

/-- **The calls of a transaction come in their order**, and a commit only after all that it has to
commit. -/
theorem Transacted.next {Whole : TxId → List CallRecord → Prop} {l rest : List CallRecord}
    {c : CallRecord} (h : Transacted Whole (l ++ c :: rest)) : NextCall Whole l c := by
  generalize hall : l ++ c :: rest = all at h
  cases l with
  | nil =>
    refine .begin rfl ?_
    cases h with
    | untried => cases hall
    | unbegun hreq hfail =>
      rw [(List.cons.inj hall).1]
      exact hreq
    | rolledBack hl o =>
      rw [(List.cons.inj hall).1]
      rfl
    | committed hl hwhole o =>
      rw [(List.cons.inj hall).1]
      rfl
  | cons d l =>
    cases h with
    | untried => cases hall
    | unbegun hreq hfail => exact absurd (List.cons.inj hall).2 (by simp)
    | rolledBack hl o =>
      obtain ⟨rfl, htail⟩ := List.cons.inj hall
      rcases append_cons_eq_concat htail with ⟨-, rfl⟩ | ⟨rest', rfl⟩
      · exact .rollback rfl rfl
      · exact .write rfl (hl c (List.mem_append_right _ List.mem_cons_self))
    | committed hl hwhole o =>
      obtain ⟨rfl, htail⟩ := List.cons.inj hall
      rcases append_cons_eq_concat htail with ⟨rfl, rfl⟩ | ⟨rest', rfl⟩
      · exact .commit rfl hl hwhole rfl
      · exact .write rfl (hl c (List.mem_append_right _ List.mem_cons_self))

/-- What is whole in one sense is whole in a wider one. -/
theorem Transacted.mono {Whole Whole' : TxId → List CallRecord → Prop}
    (himp : ∀ tx l, Whole tx l → Whole' tx l) {l : List CallRecord} (h : Transacted Whole l) :
    Transacted Whole' l := by
  cases h with
  | untried => exact .untried
  | unbegun hreq hfail => exact .unbegun hreq hfail
  | rolledBack hl o => exact .rolledBack hl o
  | committed hl hwhole o => exact .committed hl (himp _ _ hwhole) o

/-! ## Uploads -/

theorem writesTo?_of_uploadCalls {tx : TxId} {file : Uuid} {rows : List ChunkRecord} {c : CallRecord}
    (h : c ∈ uploadCalls tx file rows) : c.request.writesTo? = some tx := by
  rcases uploadCalls_request h with h | ⟨_, _, h⟩ | ⟨_, _, h⟩ <;> rw [h] <;> rfl

theorem Attempts.writesTo? {tx : TxId} {l script : List CallRecord} (h : Attempts l script)
    (hs : ∀ c ∈ script, c.request.writesTo? = some tx) : ∀ c ∈ l, c.request.writesTo? = some tx := by
  intro c hc
  obtain ⟨c', hc', heq⟩ := h.request_mem hc
  rw [heq]
  exact hs c' hc'

/-! ## Closing -/

theorem abandon_ends {tx : TxId} {es : List Exchange} {u : Unit}
    (h : (Storage.abandon tx).Ends es u) : ∃ o, calls es = [⟨.rollback tx, some o⟩] := by
  unfold Storage.abandon at h
  simp only [bind_eq, ends_bind] at h
  obtain ⟨es₁, es₂, o, rfl, hcall, rfl, -⟩ := h
  obtain rfl := ends_call.mp hcall
  exact ⟨o, rfl⟩

/-- What a caller learns of a commit that ended like this. -/
def settled {α : Type} (value : α) : Except StorageError Unit → Except StorageError α
  | .ok () => .ok value
  | .error e => .error (e.intoUnknown "commit")

theorem settle_ends {α : Type} {tx : TxId} {value : α} {es : List Exchange}
    {r : Except StorageError α} (h : (Storage.settle tx value).Ends es r) :
    ∃ o, es = [⟨.call (.commit tx), o⟩] ∧ r = settled value o := by
  unfold Storage.settle at h
  simp only [bind_eq, ends_bind] at h
  obtain ⟨es₁, es₂, o, rfl, hcall, h⟩ := h
  obtain rfl := ends_call.mp hcall
  cases o with
  | ok u =>
    obtain ⟨rfl, rfl⟩ := h
    exact ⟨.ok u, rfl, rfl⟩
  | error e =>
    obtain ⟨rfl, rfl⟩ := h
    exact ⟨.error e, rfl, rfl⟩

/-! ## Saving -/

/-- The ways in which a save can go. -/
inductive SaveRun (token : Token) (source : Source) (es : List Exchange) :
    Except StorageError Uuid → Prop
  | unbegun {e : StorageError}
      (hcalls : calls es = [] ∨ ∃ c, calls es = [c] ∧ c.request = .begin ∧ c.Failed)
      (hwhy : Hindered token es) : SaveRun token source es (.error e)
  | rolledBack {e : StorageError} {tx : TxId} {file : Uuid} {rows : List ChunkRecord}
      {l : List CallRecord} {o : (Request.rollback tx).Outcome}
      (hrows : RowsOf file (pieces source.delivered) rows)
      (hl : Attempts l (uploadCalls tx file rows) ∨
        l = uploadCalls tx file rows ∧ ⟨.fired token, true⟩ ∈ es)
      (hcalls : calls es = .ok .begin tx :: (l ++ [⟨.rollback tx, some o⟩]))
      (hwhy : Hindered token es ∨ source.ending ≠ .ended) : SaveRun token source es (.error e)
  | committed {tx : TxId} {file : Uuid} {rows : List ChunkRecord} {o : (Request.commit tx).Outcome}
      (hrows : RowsOf file (pieces source.delivered) rows) (hend : source.ending = .ended)
      (hcalls : calls es = .ok .begin tx :: (uploadCalls tx file rows ++ [⟨.commit tx, some o⟩]))
      (hwhy : ∀ e, o = .error e → Hindered token es) : SaveRun token source es (settled file o)

/-- **Every run of a save is one of these.** -/
theorem save_ends {token : Token} {source : Source} {es : List Exchange}
    {r : Except StorageError Uuid} (h : (Storage.save token source).Ends es r) :
    SaveRun token source es r := by
  unfold Storage.save at h
  obtain ⟨run, rfl, hrun⟩ := ends_counted.mp h
  clear h
  simp only [bind_eq, ends_bind] at hrun
  obtain ⟨es₁, es₂, o, rfl, hrace, h⟩ := hrun
  obtain ⟨tx, rfl, hc₁⟩ | ⟨err, rfl, hh, hc₁⟩ := race_ends hrace
  · simp only [ends_bind] at h
    obtain ⟨es₃, es₄, w, rfl, hwrite, h⟩ := h
    obtain ⟨file, rows, rfl, hend, hrows, hc₃⟩ | ⟨err, file, rows, rfl, hrows, hatt, hwhy⟩ :=
      writeFile_ends hwrite
    · simp only [ends_bind, ends_fired] at h
      obtain ⟨_, es₅, b, rfl, rfl, h⟩ := h
      cases b with
      | true =>
        -- the token has fired when all is written
        simp only [if_true, ends_bind] at h
        obtain ⟨es₆, _, u, rfl, hab, rfl, rfl⟩ := h
        obtain ⟨o, hc₆⟩ := abandon_ends hab
        have hfired : (⟨.fired token, true⟩ : Exchange) ∈
            es₁ ++ (es₃ ++ ([⟨.fired token, true⟩] ++ (es₆ ++ []))) ++ [⟨.count .save true, ()⟩] := by
          simp
        refine .rolledBack (o := o) hrows (.inr ⟨rfl, hfired⟩) ?_ (.inl ⟨_, hfired, rfl, rfl⟩)
        rw [calls_append_count, calls_append, calls_append, calls_append, calls_append, hc₁, hc₃, hc₆]
        rfl
      | false =>
        -- the commit decides
        simp only [Bool.false_eq_true, if_false] at h
        obtain ⟨o, rfl, rfl⟩ := settle_ends h
        refine .committed hrows hend ?_ ?_
        · rw [calls_append_count, calls_append, calls_append, calls_append, hc₁, hc₃]
          rfl
        · intro e he
          refine ⟨⟨.call (.commit tx), o⟩, ?_, e, he⟩
          simp
    · -- the upload broke off
      simp only [ends_bind] at h
      obtain ⟨es₅, _, u, rfl, hab, rfl, rfl⟩ := h
      obtain ⟨o, hc₅⟩ := abandon_ends hab
      refine .rolledBack (o := o) hrows (.inl hatt) ?_ ?_
      · rw [calls_append_count, calls_append, calls_append, calls_append, hc₁, hc₅]
        rfl
      · exact hwhy.imp_left fun hh => ((hh.left _).right _).left _
  · obtain ⟨rfl, rfl⟩ := h
    refine .unbegun ?_ ((hh.left _).left _)
    rw [calls_append_count, calls_append, calls_nil, List.append_nil]
    exact hc₁

/-- **A save either comes to its commit**, or it fails and has made no call that could change what is
committed. -/
theorem SaveRun.publishes_or_commits {token : Token} {source : Source} {es : List Exchange}
    {r : Except StorageError Uuid} (h : SaveRun token source es r) :
    (∃ e, r = .error e) ∧ (∀ c ∈ calls es, c.request.publishes = false) ∨
      ∃ (tx : TxId) (file : Uuid) (rows : List ChunkRecord) (o : (Request.commit tx).Outcome),
        source.ending = .ended ∧ r = settled file o ∧
        calls es = .ok .begin tx :: (uploadCalls tx file rows ++ [⟨.commit tx, some o⟩]) := by
  cases h with
  | unbegun hcalls _ =>
    -- no call at all, or one that was to begin
    refine .inl ⟨⟨_, rfl⟩, fun c hc => ?_⟩
    rcases hcalls with hnil | ⟨c', hone, hreq, -⟩
    · rw [hnil] at hc
      exact absurd hc List.not_mem_nil
    · rw [hone] at hc
      rw [List.mem_singleton.mp hc, hreq]
      rfl
  | @rolledBack e tx file rows l o _ hl hcalls _ =>
    refine .inl ⟨⟨_, rfl⟩, fun c hc => ?_⟩
    have hwrites : ∀ c ∈ l, c.request.writesTo? = some tx := by
      rcases hl with hl | ⟨rfl, -⟩
      · exact hl.writesTo? fun c => writesTo?_of_uploadCalls
      · exact fun c => writesTo?_of_uploadCalls
    rw [hcalls] at hc
    rcases List.mem_cons.mp hc with rfl | hc
    · rfl
    · rcases List.mem_append.mp hc with hc | hc
      · exact publishes_of_writesTo? (hwrites c hc)
      · rw [List.mem_singleton.mp hc]
        rfl
  | @committed tx file rows o _ hend hcalls _ => exact .inr ⟨tx, file, rows, o, hend, rfl, hcalls⟩

/-- What a save commits: all the calls of an upload of what its source delivered. -/
def WholeUpload (source : Source) (tx : TxId) (l : List CallRecord) : Prop :=
  ∃ file rows, RowsOf file (pieces source.delivered) rows ∧ l = uploadCalls tx file rows

theorem save_transacted {token : Token} {source : Source} {es : List Exchange}
    {r : Except StorageError Uuid} (h : (Storage.save token source).Ends es r) :
    Transacted (WholeUpload source) (calls es) := by
  cases save_ends h with
  | unbegun hcalls _ =>
    obtain hc | ⟨c, hc, hreq, hfail⟩ := hcalls
    · rw [hc]
      exact .untried
    · rw [hc]
      exact .unbegun hreq hfail
  | rolledBack hrows hl hcalls _ =>
    rw [hcalls]
    refine .rolledBack ?_ _
    rcases hl with hl | ⟨rfl, -⟩
    · exact hl.writesTo? fun c => writesTo?_of_uploadCalls
    · exact fun c => writesTo?_of_uploadCalls
  | committed hrows _ hcalls _ =>
    rw [hcalls]
    exact .committed (fun c => writesTo?_of_uploadCalls) ⟨_, _, hrows, rfl⟩ _

/-! ## Deleting -/

/-- The calls of a delete that removed all rows, with the numbers of rows that it was told. -/
def removeCalls (tx : TxId) (id : Uuid) (chunks files : Nat) : List CallRecord :=
  [.ok (.deleteChunks tx id) chunks, .ok (.deleteFile tx id) files]

/-- What a delete commits: the removal of the chunks and of the file. -/
def WholeRemoval (id : Uuid) (tx : TxId) (l : List CallRecord) : Prop :=
  ∃ chunks files, l = removeCalls tx id chunks files

/-- A call that is awaited either succeeds or is noted as a failed one. -/
theorem call_ends {q : Request} {es : List Exchange} {o : q.Outcome} (h : (call q).Ends es o) :
    (∃ v, o = .ok v ∧ calls es = [.ok q v]) ∨
      ∃ e, o = .error e ∧ ∃ c, calls es = [c] ∧ c.request = q ∧ c.Failed := by
  obtain rfl := ends_call.mp h
  cases o with
  | ok v => exact .inl ⟨v, rfl, rfl⟩
  | error e => exact .inr ⟨e, rfl, ⟨q, some (.error e)⟩, rfl, rfl, fun v => nofun⟩

theorem removeRows_ends {tx : TxId} {id : Uuid} {es : List Exchange} {r : Except StorageError Unit}
    (h : (Storage.removeRows tx id).Ends es r) :
    ∃ chunks files, r = .ok () ∧ calls es = removeCalls tx id chunks files ∨
      (∃ e, r = .error e) ∧ Attempts (calls es) (removeCalls tx id chunks files) := by
  unfold Storage.removeRows at h
  simp only [bind_eq, ends_bind] at h
  obtain ⟨es₁, es₂, o, rfl, hcall, h⟩ := h
  obtain ⟨chunks, rfl, hc₁⟩ | ⟨e, rfl, c, hc₁, hreq, hfail⟩ := call_ends hcall
  · simp only [ends_bind] at h
    obtain ⟨es₃, es₄, o, rfl, hcall, h⟩ := h
    obtain ⟨files, rfl, hc₃⟩ | ⟨e, rfl, c, hc₃, hreq, hfail⟩ := call_ends hcall
    · obtain ⟨rfl, rfl⟩ := h
      refine ⟨chunks, files, .inl ⟨rfl, ?_⟩⟩
      rw [calls_append, calls_append, hc₁, hc₃]
      rfl
    · obtain ⟨rfl, rfl⟩ := h
      refine ⟨chunks, 0, .inr ⟨⟨e, rfl⟩, ?_⟩⟩
      rw [calls_append, calls_append, hc₁, hc₃]
      exact Attempts.append_left [_] (.failed hreq hfail)
  · obtain ⟨rfl, rfl⟩ := h
    refine ⟨0, 0, .inr ⟨⟨e, rfl⟩, ?_⟩⟩
    rw [calls_append, hc₁]
    exact .failed hreq hfail

/-- The ways in which a delete can go. -/
inductive DeleteRun (id : Uuid) (es : List Exchange) : Except StorageError Unit → Prop
  | unbegun {e : StorageError} {c : CallRecord} (hcalls : calls es = [c]) (hreq : c.request = .begin)
      (hfail : c.Failed) : DeleteRun id es (.error e)
  | rolledBack {e : StorageError} {tx : TxId} {chunks files : Nat} {l : List CallRecord}
      {o : (Request.rollback tx).Outcome} (hl : Attempts l (removeCalls tx id chunks files))
      (hcalls : calls es = .ok .begin tx :: (l ++ [⟨.rollback tx, some o⟩])) :
      DeleteRun id es (.error e)
  | committed {tx : TxId} {chunks files : Nat} {o : (Request.commit tx).Outcome}
      (hcalls : calls es =
        .ok .begin tx :: (removeCalls tx id chunks files ++ [⟨.commit tx, some o⟩])) :
      DeleteRun id es (settled () o)

/-- **Every run of a delete is one of these.** -/
theorem delete_ends {id : Uuid} {es : List Exchange} {r : Except StorageError Unit}
    (h : (Storage.delete id).Ends es r) : DeleteRun id es r := by
  unfold Storage.delete at h
  obtain ⟨run, rfl, hrun⟩ := ends_counted.mp h
  clear h
  simp only [bind_eq, ends_bind] at hrun
  obtain ⟨es₁, es₂, o, rfl, hcall, h⟩ := hrun
  obtain ⟨tx, rfl, hc₁⟩ | ⟨e, rfl, c, hc₁, hreq, hfail⟩ := call_ends hcall
  · simp only [ends_bind] at h
    obtain ⟨es₃, es₄, w, rfl, hremove, h⟩ := h
    obtain ⟨chunks, files, ⟨rfl, hc₃⟩ | ⟨⟨e, rfl⟩, hatt⟩⟩ := removeRows_ends hremove
    · obtain ⟨o, rfl, rfl⟩ := settle_ends h
      refine @DeleteRun.committed id _ tx chunks files o ?_
      rw [calls_append_count, calls_append, calls_append, hc₁, hc₃]
      rfl
    · simp only [ends_bind] at h
      obtain ⟨es₅, _, u, rfl, hab, rfl, rfl⟩ := h
      obtain ⟨o, hc₅⟩ := abandon_ends hab
      refine .rolledBack (o := o) hatt ?_
      rw [calls_append_count, calls_append, calls_append, calls_append, hc₁, hc₅]
      rfl
  · obtain ⟨rfl, rfl⟩ := h
    refine .unbegun ?_ hreq hfail
    rw [calls_append_count, calls_append, calls_nil, List.append_nil, hc₁]

theorem writesTo?_of_removeCalls {tx : TxId} {id : Uuid} {chunks files : Nat} {c : CallRecord}
    (h : c ∈ removeCalls tx id chunks files) : c.request.writesTo? = some tx := by
  rcases List.mem_cons.mp h with rfl | h
  · rfl
  · rw [List.mem_singleton.mp h]
    rfl

theorem delete_transacted {id : Uuid} {es : List Exchange} {r : Except StorageError Unit}
    (h : (Storage.delete id).Ends es r) : Transacted (WholeRemoval id) (calls es) := by
  cases delete_ends h with
  | unbegun hcalls hreq hfail =>
    rw [hcalls]
    exact .unbegun hreq hfail
  | rolledBack hl hcalls =>
    rw [hcalls]
    exact .rolledBack (hl.writesTo? fun c => writesTo?_of_removeCalls) _
  | committed hcalls =>
    rw [hcalls]
    exact .committed (fun c => writesTo?_of_removeCalls) ⟨_, _, rfl⟩ _

end ChunkVault
