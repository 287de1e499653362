/-
# ChunkVault.Proofs.Memory.Interleaving -- many operations at once

Any number of operations run over one store in memory. In each step one of them is begun, or one that is
under way is answered its next query, as `Answers` allows if any reply can be lost; the switches of the store
may be turned at any time. Between any two calls of an operation the others may have made calls of their own,
so nothing is known of the tables that a transaction is applied to when it is committed.

`Agrees` is what holds in every reachable system: what waits in the transaction of an operation under way
is what its own calls have left there, every id is in use in one place, and the tables are intact.
-/
import ChunkVault.Proofs.Operations
import ChunkVault.Proofs.Memory.Bench
import ChunkVault.Proofs.Memory.Ids
import ChunkVault.Proofs.Memory.Integrity

namespace ChunkVault.Memory

open Program

/-- An operation under way, with all that it was answered so far. -/
structure Task where
  operation : Operation
  past : List Exchange
  rest : Program (Except StorageError operation.Value)

/-- A store and the operations that run over it. -/
structure System where
  store : Store
  tasks : List Task

namespace System

/-- What can happen next. -/
inductive Step : System → System → Prop
  /-- An operation begins. -/
  | start (σ : System) (op : Operation) : Step σ ⟨σ.store, σ.tasks ++ [⟨op, [], op.program⟩]⟩
  /-- An operation is answered a query. -/
  | answer {σ : System} {i : Nat} {op : Operation} {past : List Exchange} {q : Query}
      {resume : q.Answer → Program (Except StorageError op.Value)} {a : q.Answer} {s' : Store}
      (htask : σ.tasks[i]? = some ⟨op, past, .ask q resume⟩) (h : Store.Answers (fun _ => True) q σ.store a s') :
      Step σ ⟨s', σ.tasks.set i ⟨op, past ++ [⟨q, a⟩], resume a⟩⟩
  /-- The switches of the store are turned. -/
  | switch (σ : System) (faults : Faults) : Step σ ⟨{ σ.store with faults := faults }, σ.tasks⟩

/-- Whatever can come of a store without rows. -/
inductive Reachable : System → Prop
  | init : Reachable ⟨.empty, []⟩
  | step {σ σ' : System} (h : Reachable σ) (hstep : Step σ σ') : Reachable σ'

end System

/-! ## What a store and the calls of many agree on -/

namespace Store

/-- Among these calls is the one that has opened the transaction. -/
def Begun (l : List CallRecord) (tx : TxId) : Prop := CallRecord.ok .begin tx ∈ l

/-- Every transaction that an operation has opened is its own, and what waits in it is what the calls of its
owner have left. -/
structure Owned (s : Store) (ls : List (List CallRecord)) : Prop where
  named : ∀ (i : Nat) (l : List CallRecord), ls[i]? = some l → ∀ tx, Begun l tx → tx < s.nextTx
  apart : ∀ (i j : Nat) (l m : List CallRecord), ls[i]? = some l → ls[j]? = some m → i ≠ j →
    ∀ tx, Begun l tx → ¬Begun m tx
  waits : ∀ (i : Nat) (tx : TxId) (l : List CallRecord), ls[i]? = some (.ok .begin tx :: l) →
    (∀ c ∈ l, c.request.writesTo? = some tx) → s.isOpen tx = true ∧ LeftBy l (s.waiting tx)

/-- A store and the calls that each operation over it has made so far agree: transactions have one owner
each, what waits in one is what the calls of its owner have left, and ids and rows are in order. -/
structure Agrees (s : Store) (ls : List (List CallRecord)) : Prop where
  named : ∀ (i : Nat) (l : List CallRecord), ls[i]? = some l → ∀ tx, Begun l tx → tx < s.nextTx
  apart : ∀ (i j : Nat) (l m : List CallRecord), ls[i]? = some l → ls[j]? = some m → i ≠ j →
    ∀ tx, Begun l tx → ¬Begun m tx
  waits : ∀ (i : Nat) (tx : TxId) (l : List CallRecord), ls[i]? = some (.ok .begin tx :: l) →
    (∀ c ∈ l, c.request.writesTo? = some tx) → s.isOpen tx = true ∧ LeftBy l (s.waiting tx)
  unmixed : s.Unmixed
  intact : s.tables.Intact

variable {lost : Request → Prop} {s s' : Store} {ls : List (List CallRecord)} {l : List CallRecord}
  {c : CallRecord} {i : Nat}

theorem Agrees.empty : Store.empty.Agrees [] where
  named i l h := by cases h
  apart i j l m h := by cases h
  waits i tx l h := by cases h
  unmixed := .empty
  intact := .empty

theorem Agrees.owned (h : s.Agrees ls) : s.Owned ls := ⟨h.named, h.apart, h.waits⟩

/-- An operation that begins has made no call yet. -/
theorem Owned.start (h : s.Owned ls) : s.Owned (ls ++ [[]]) := by
  have hold : ∀ (i : Nat) (l : List CallRecord), (ls ++ [[]])[i]? = some l → ls[i]? = some l ∨ l = [] := by
    intro i l hl
    rw [List.getElem?_append] at hl
    split at hl
    · exact .inl hl
    · exact .inr (List.mem_singleton.mp (List.mem_of_getElem? hl))
  refine ⟨?_, ?_, ?_⟩
  · intro i l hl tx htx
    rcases hold i l hl with hl | rfl
    · exact h.named i l hl tx htx
    · exact absurd htx List.not_mem_nil
  · intro i j l m hl hm hne tx htx
    rcases hold i l hl with hl | rfl
    · rcases hold j m hm with hm | rfl
      · exact h.apart i j l m hl hm hne tx htx
      · exact List.not_mem_nil
    · exact absurd htx List.not_mem_nil
  · intro i tx l hl
    rcases hold i _ hl with hl | hl
    · exact h.waits i tx l hl
    · cases hl

theorem Agrees.start (h : s.Agrees ls) : s.Agrees (ls ++ [[]]) := by
  obtain ⟨hnamed, hapart, hwaits⟩ := h.owned.start
  exact ⟨hnamed, hapart, hwaits, h.unmixed, h.intact⟩

/-! ## One more call -/

/-- A call within a transaction is made by the operation that has opened it. -/
theorem begun_of_within {tx : TxId} (hnext : NextCall WholeChange l c)
    (hwithin : c.request.within? = some tx) : Begun l tx := by
  cases hnext with
  | begin hl hreq =>
    rw [hreq] at hwithin
    cases hwithin
  | write hl hreq =>
    rw [Request.within?, hreq] at hwithin
    obtain rfl := Option.some.inj hwithin
    rw [hl]
    exact List.mem_cons_self
  | rollback hl hreq | commit hl _ _ hreq =>
    rw [hreq] at hwithin
    obtain rfl := Option.some.inj hwithin
    rw [hl]
    exact List.mem_cons_self
  | point hl hreq =>
    cases hc : c.request with
    | findFile id | findChunk id | updateMetadata id data =>
      rw [hc] at hwithin
      cases hwithin
    | _ =>
      rw [hc] at hreq
      cases hreq

/-- What an operation commits is whole. -/
theorem whole_of_commit {tx : TxId} (hnext : NextCall WholeChange l c) (hreq : c.request = .commit tx) :
    ∃ m, l = .ok .begin tx :: m ∧ (∀ d ∈ m, d.request.writesTo? = some tx) ∧ WholeChange tx m := by
  cases hnext with
  | begin hl hreq' =>
    rw [hreq] at hreq'
    cases hreq'
  | write hl hreq' =>
    rw [hreq] at hreq'
    cases hreq'
  | rollback hl hreq' =>
    rw [hreq] at hreq'
    cases hreq'
  | @commit tx' m hl hm hwhole hreq' =>
    rw [hreq] at hreq'
    obtain rfl := Request.commit.inj hreq'
    exact ⟨m, hl, hm, hwhole⟩
  | point hl hreq' =>
    rw [hreq] at hreq'
    cases hreq'

/-- **The writes of a whole change keep the tables intact**, if their ids are new. -/
theorem intact_of_whole {tx : TxId} {m : List CallRecord} (hwhole : WholeChange tx m) {ws : List Write}
    (hleft : LeftBy m ws) {t : Tables} (ht : t.Intact) (hnodup : (newIds ws).Nodup)
    (hunused : ∀ id ∈ newIds ws, id ∉ t.rowIds) (now : Timestamp) :
    (ws.foldl (Write.apply now) t).Intact := by
  rcases hwhole with ⟨source, file, rows, hrows, rfl⟩ | ⟨id, chunks, files, rfl⟩
  · obtain ⟨made, rfl⟩ := hleft.upload
    rw [newIds_uploadWrites] at hnodup hunused
    have hunused := Tables.unused_of_rowIds hunused
    rw [apply_uploadWrites (List.nodup_cons.mp hnodup).2, Tables.without_of_unused hunused]
    exact ht.upload hrows hnodup hunused
  · obtain rfl := hleft.removal
    rw [apply_removalWrites]
    exact ht.deleteFile id

theorem Agrees.intact_made (h : s.Agrees ls) (hl : ls[i]? = some l) (hnext : NextCall WholeChange l c)
    (hmade : Made lost c s s') : s'.tables.Intact := by
  rcases hmade.tables_cases with hsame | ⟨tx, now, hreq, -, happly⟩ | ⟨id, data, now, -, hdata⟩
  · rw [hsame]
    exact h.intact
  · -- what is committed waited in the transaction of the task, and its calls tell what that is
    obtain ⟨m, rfl, hm, hwhole⟩ := whole_of_commit hnext hreq
    obtain ⟨-, hleft⟩ := h.waits i tx m hl hm
    rw [happly]
    exact intact_of_whole hwhole hleft h.intact (h.unmixed.nodup tx) (h.unmixed.unused tx) now
  · rw [hdata]
    exact h.intact.setMetadata now id data

/-- A transaction that other calls have opened is left alone. -/
theorem Owned.waits_made (h : s.Owned ls) (hl : ls[i]? = some l) (hnext : NextCall WholeChange l c)
    (hmade : Made lost c s s') {j : Nat} (hij : i ≠ j) {tx : TxId} {m : List CallRecord}
    (hm : ls[j]? = some (.ok .begin tx :: m)) (hwrites : ∀ d ∈ m, d.request.writesTo? = some tx) :
    s'.isOpen tx = true ∧ LeftBy m (s'.waiting tx) := by
  obtain ⟨hopen, hleft⟩ := h.waits j tx m hm hwrites
  have hlt : tx < s.nextTx := h.named j _ hm tx List.mem_cons_self
  have hother : c.request.within? ≠ some tx := fun hwithin =>
    h.apart i j _ _ hl hm hij tx (begun_of_within hnext hwithin) List.mem_cons_self
  refine ⟨(hmade.frame.isOpen tx hlt hother).trans hopen, ?_⟩
  rw [waiting, hmade.frame.transaction tx hlt hother]
  exact hleft

/-- What the operation that makes the call has left in its own transaction. -/
theorem Owned.waits_own (h : s.Owned ls) (hl : ls[i]? = some l) (hnext : NextCall WholeChange l c)
    (hmade : Made lost c s s') {tx : TxId} {m : List CallRecord} (hm : l ++ [c] = .ok .begin tx :: m)
    (hwrites : ∀ d ∈ m, d.request.writesTo? = some tx) :
    s'.isOpen tx = true ∧ LeftBy m (s'.waiting tx) := by
  cases l with
  | nil =>
    obtain ⟨rfl, rfl⟩ := List.cons.inj hm
    obtain ⟨rfl, rfl⟩ := hmade.begin
    refine ⟨by rw [isOpen_begin]; simp, ?_⟩
    rw [waiting, transaction_begin, if_pos rfl]
    rfl
  | cons d l =>
    -- to what has been left so far comes what this call leaves
    obtain ⟨rfl, rfl⟩ := List.cons.inj hm
    obtain ⟨hopen, hleft⟩ := h.waits i tx l hl fun d hd => hwrites d (List.mem_append_left _ hd)
    obtain ⟨more, hadds⟩ :=
      hmade.adds (hwrites c (List.mem_append_right _ (List.mem_singleton.mpr rfl))) hopen
    refine ⟨hadds.isOpen, ?_⟩
    rw [hadds.waiting]
    exact leftBy_append.mpr ⟨_, more, rfl, hleft, more, [], (List.append_nil _).symm, hadds.leaves, rfl⟩

/-- **One more call**, of whichever operation, and however it ended. -/
theorem Owned.made (h : s.Owned ls) (hl : ls[i]? = some l) (hnext : NextCall WholeChange l c)
    (hmade : Made lost c s s') : s'.Owned (ls.set i (l ++ [c])) := by
  have hset : ∀ (j : Nat) (m : List CallRecord), (ls.set i (l ++ [c]))[j]? = some m →
      i = j ∧ m = l ++ [c] ∨ i ≠ j ∧ ls[j]? = some m := by
    intro j m hm
    by_cases hij : i = j
    · subst hij
      rw [List.getElem?_set_self (List.getElem?_eq_some_iff.mp hl).1] at hm
      exact .inl ⟨rfl, (Option.some.inj hm).symm⟩
    · rw [List.getElem?_set_ne hij] at hm
      exact .inr ⟨hij, hm⟩
  -- a transaction that the operation has opened has been opened before, or is the next one
  have hbegun : ∀ tx, Begun (l ++ [c]) tx → Begun l tx ∨ tx = s.nextTx ∧ tx < s'.nextTx := by
    intro tx htx
    rcases List.mem_append.mp htx with htx | htx
    · exact .inl htx
    · obtain rfl := List.mem_singleton.mp htx
      obtain ⟨rfl, rfl⟩ := hmade.begin
      exact .inr ⟨rfl, Nat.lt_succ_self _⟩
  refine ⟨?_, ?_, ?_⟩
  · intro j m hm tx htx
    rcases hset j m hm with ⟨rfl, rfl⟩ | ⟨-, hm⟩
    · rcases hbegun tx htx with htx | ⟨-, hlt⟩
      · exact Nat.lt_of_lt_of_le (h.named i l hl tx htx) hmade.frame.nextTx
      · exact hlt
    · exact Nat.lt_of_lt_of_le (h.named j m hm tx htx) hmade.frame.nextTx
  · intro j k m n hm hn hjk tx htm htn
    rcases hset j m hm with ⟨rfl, rfl⟩ | ⟨hij, hm⟩
    · rcases hset k n hn with ⟨rfl, rfl⟩ | ⟨hik, hn⟩
      · exact hjk rfl
      · rcases hbegun tx htm with htm | ⟨rfl, -⟩
        · exact h.apart i k l n hl hn hik tx htm htn
        · exact Nat.lt_irrefl _ (h.named k n hn _ htn)
    · rcases hset k n hn with ⟨rfl, rfl⟩ | ⟨-, hn⟩
      · rcases hbegun tx htn with htn | ⟨rfl, -⟩
        · exact h.apart j i m l hm hl hjk tx htm htn
        · exact Nat.lt_irrefl _ (h.named j m hm _ htm)
      · exact h.apart j k m n hm hn hjk tx htm htn
  · intro j tx m hm hwrites
    rcases hset j _ hm with ⟨rfl, hown⟩ | ⟨hij, hm⟩
    · exact h.waits_own hl hnext hmade hown.symm hwrites
    · exact h.waits_made hl hnext hmade hij hm hwrites

theorem Agrees.made (h : s.Agrees ls) (hl : ls[i]? = some l) (hnext : NextCall WholeChange l c)
    (hmade : Made lost c s s') (hids : s'.issued ≤ Uuid.issueCount) : s'.Agrees (ls.set i (l ++ [c])) := by
  obtain ⟨hnamed, hapart, hwaits⟩ := h.owned.made hl hnext hmade
  exact ⟨hnamed, hapart, hwaits, hmade.unmixed h.unmixed hids, h.intact_made hl hnext hmade⟩

end Store

/-! ## Reachable systems -/

/-- The calls that a task has made so far. -/
def Task.history (t : Task) : List CallRecord := calls t.past

section Tasks

variable {ts : List Task} {i : Nat} {op : Operation} {past : List Exchange} {q : Query}
  {rest : Program (Except StorageError op.Value)} {resume : q.Answer → Program (Except StorageError op.Value)}

theorem traced_start (h : ∀ t ∈ ts, t.operation.program.Trace t.past t.rest) (op : Operation) :
    ∀ t ∈ ts ++ [⟨op, [], op.program⟩], t.operation.program.Trace t.past t.rest :=
  List.forall_mem_append.mpr ⟨h, List.forall_mem_singleton.mpr (.refl _)⟩

theorem traced_answer (h : ∀ t ∈ ts, t.operation.program.Trace t.past t.rest)
    (htask : ts[i]? = some ⟨op, past, .ask q resume⟩) (a : q.Answer) :
    ∀ t ∈ ts.set i ⟨op, past ++ [⟨q, a⟩], resume a⟩, t.operation.program.Trace t.past t.rest := by
  intro t ht
  rcases List.mem_or_eq_of_mem_set ht with ht | rfl
  · exact h t ht
  · exact (h _ (List.mem_of_getElem? htask)).snoc a

theorem histories_start (ts : List Task) (op : Operation) :
    (ts ++ [Task.mk op [] op.program]).map Task.history = ts.map Task.history ++ [[]] := List.map_append

theorem history_of_task (htask : ts[i]? = some ⟨op, past, rest⟩) :
    (ts.map Task.history)[i]? = some (calls past) := by
  rw [List.getElem?_map, htask]
  rfl

/-- An answer adds the call that it answers, if it answers one. -/
theorem histories_answer (ts : List Task) (i : Nat) (op : Operation) (past : List Exchange) (q : Query)
    (a : q.Answer) (rest : Program (Except StorageError op.Value)) :
    (ts.set i (Task.mk op (past ++ [⟨q, a⟩]) rest)).map Task.history =
      (ts.map Task.history).set i (calls past ++ (Exchange.call? ⟨q, a⟩).toList) := by
  have hcalls : calls (past ++ [⟨q, a⟩]) = calls past ++ (Exchange.call? ⟨q, a⟩).toList := by
    rw [calls_append, calls_cons, calls_nil, List.append_nil]
  rw [List.map_set, ← hcalls]
  rfl

theorem histories_answer_of_none (htask : ts[i]? = some ⟨op, past, .ask q resume⟩) {a : q.Answer}
    (hnone : Exchange.call? ⟨q, a⟩ = none) (rest : Program (Except StorageError op.Value)) :
    (ts.set i (Task.mk op (past ++ [⟨q, a⟩]) rest)).map Task.history = ts.map Task.history := by
  obtain ⟨hi, hget⟩ := List.getElem?_eq_some_iff.mp (history_of_task htask)
  rw [histories_answer, hnone, Option.toList_none, List.append_nil, ← hget, List.set_getElem_self]

end Tasks

namespace System

/-- What holds of every reachable system: its tasks have come to where they are by what they were answered,
and the store agrees with the calls that they have made. -/
structure Inv (σ : System) : Prop where
  traced : ∀ t ∈ σ.tasks, t.operation.program.Trace t.past t.rest
  agrees : σ.store.Agrees (σ.tasks.map Task.history)

variable {σ σ' : System}

theorem Step.issued_le (h : Step σ σ') : σ.store.issued ≤ σ'.store.issued := by
  cases h with
  | start op => exact Nat.le_refl _
  | @answer i op past q resume a s' htask h =>
    rcases @Store.Answers.made_cases _ (Exchange.mk q a) _ _ h with ⟨-, rfl⟩ | ⟨c, -, hmade⟩
    · exact Nat.le_refl _
    · exact hmade.frame.issued
  | switch faults => exact Nat.le_refl _

theorem Inv.step (h : Inv σ) (hstep : Step σ σ') (hids : σ'.store.issued ≤ Uuid.issueCount) :
    Inv σ' := by
  cases hstep with
  | start op =>
    refine ⟨traced_start h.traced op, ?_⟩
    rw [histories_start]
    exact h.agrees.start
  | @answer i op past q resume a s' htask hanswer =>
    refine ⟨traced_answer h.traced htask a, ?_⟩
    rcases @Store.Answers.made_cases _ (Exchange.mk q a) _ _ hanswer with ⟨hnone, rfl⟩ | ⟨c, hcall, hmade⟩
    · rw [histories_answer_of_none htask hnone]
      exact h.agrees
    · -- the task could be brought to its end from here, and so the call is one that its operation makes
      obtain ⟨fs, b, hends⟩ := (h.traced _ (List.mem_of_getElem? htask)).exists_ends a
      rw [histories_answer, hcall, Option.toList_some]
      exact h.agrees.made (history_of_task htask) (Operation.nextCall hends hcall) hmade hids
  | switch faults =>
    -- nothing that holds of the store speaks of its switches
    obtain ⟨htraced, ⟨hnamed, hapart, hwaits, ⟨hrows, hissued, hnodup, hunused, hother⟩, hintact⟩⟩ := h
    exact ⟨htraced, hnamed, hapart, hwaits, ⟨hrows, hissued, hnodup, hunused, hother⟩, hintact⟩

theorem Reachable.inv (h : Reachable σ) (hids : σ.store.issued ≤ Uuid.issueCount) : Inv σ := by
  -- along the steps; a store that has ids left at last has had them all along
  induction h with
  | init => exact ⟨fun t ht => absurd ht List.not_mem_nil, .empty⟩
  | step _ hstep ih => exact (ih (Nat.le_trans hstep.issued_le hids)).step hstep hids

/-! ## One operation after another -/

/-- A task that is left to itself runs to its end. -/
theorem Reachable.finish {s s' : Store} {ts : List Task} {op : Operation} {past es : List Exchange}
    {p : Program (Except StorageError op.Value)} {r : Except StorageError op.Value}
    (h : Reachable ⟨s, ts ++ [⟨op, past, p⟩]⟩) (hends : p.Ends es r)
    (hstore : Along (Store.Answers fun _ => True) s es s') :
    Reachable ⟨s', ts ++ [⟨op, past ++ es, .done r⟩]⟩ := by
  -- along the program: one step of the system for each query
  induction p generalizing s past es with
  | done a =>
    obtain ⟨rfl, rfl⟩ := hends
    rw [along_nil] at hstore
    rw [hstore, List.append_nil]
    exact h
  | ask q resume ih =>
    obtain ⟨a, rest, rfl, hends⟩ := hends
    obtain ⟨s₁, hanswer, hstore⟩ := along_cons.mp hstore
    have htask : (ts ++ [Task.mk op past (.ask q resume)])[ts.length]? = some ⟨op, past, .ask q resume⟩ := by
      rw [List.getElem?_append_right (Nat.le_refl _), Nat.sub_self]
      rfl
    have hstep := h.step (.answer htask hanswer)
    rw [List.set_append_right _ _ (Nat.le_refl _), Nat.sub_self] at hstep
    have hdone := ih a hstep hends hstore
    rw [List.append_assoc] at hdone
    exact hdone

/-- **A whole run of one more operation** is one of the things that can happen to a system. -/
theorem Reachable.run {s s' : Store} {ts : List Task} (h : Reachable ⟨s, ts⟩) {op : Operation}
    {es : List Exchange} {r : Except StorageError op.Value} (hends : op.program.Ends es r)
    (hstore : Along (Store.Answers fun _ => True) s es s') : Reachable ⟨s', ts ++ [⟨op, es, .done r⟩]⟩ :=
  (h.step (.start _ op)).finish hends hstore

/-! ## What operations make of the tables -/

/-- **Every file is whole and no chunk is lost**, in whatever state the operations that run over a store
have brought it to, as long as no id has been issued twice. A file lists chunks of its own, each of them
once, that are stored, are laid out as content is and add up to its size. A chunk is listed by one file and
no other. -/
theorem Reachable.tables_whole (h : Reachable σ) (hids : (issuedBetween 0 σ.store.issued).Nodup) :
    σ.store.tables.Intact ∧
      (∀ f ∈ σ.store.tables.files, 0 ≤ f.size ∧ f.chunkIds.Nodup ∧
        ∃ rows, σ.store.tables.Lists f rows) ∧
      ∀ c ∈ σ.store.tables.chunks, ∃! f, f ∈ σ.store.tables.files ∧ c.id ∈ f.chunkIds := by
  have hintact : σ.store.tables.Intact := (h.inv (le_of_nodup_issuedBetween hids)).agrees.intact
  refine ⟨hintact, ?_, fun c hc => hintact.existsUnique_listing hc⟩
  intro f hf
  obtain ⟨rows, hlists⟩ := hintact.lists f hf
  refine ⟨?_, hlists.nodup, rows, hlists⟩
  rw [hlists.size]
  exact Tables.totalSize_nonneg rows

/-- Of three bytes saved over an empty store there is one file, and it is whole. -/
theorem Reachable.tables_whole_three_bytes :
    ∃ s f rows, ((Bench.new (.memory .empty)).run (Storage.save .own [.bytes [97, 98, 99]])).2.Holds s ∧
      s.tables.files = [f] ∧ f.id = Uuid.issue 0 ∧ s.tables.Lists f rows := by
  obtain ⟨es, s, hends, hheld, hstore⟩ :=
    Bench.run_answers (fun _ => True) (b := Bench.new (.memory .empty)) rfl
      (Storage.save .own [.bytes [97, 98, 99]])
  -- what the run comes to is computed
  have hstate : _ = s := Backend.memory.inj hheld
  have hissued : 2 = s.issued := congrArg Store.issued hstate
  have hfiles : [Uuid.issue 0] = s.tables.files.map FileRecord.id :=
    congrArg (fun s : Store => s.tables.files.map FileRecord.id) hstate
  have hends : (Operation.save .own [.bytes [97, 98, 99]]).program.Ends es _ := hends
  have hids : (issuedBetween 0 s.issued).Nodup := by
    rw [← hissued]
    decide
  obtain ⟨-, hwhole, -⟩ := (Reachable.init.run hends hstore).tables_whole hids
  obtain ⟨f, hone, hid⟩ := List.map_eq_singleton_iff.mp hfiles.symm
  obtain ⟨-, -, rows, hlists⟩ := hwhole f (by rw [hone]; exact List.mem_singleton.mpr rfl)
  exact ⟨s, f, rows, hheld, hone, hid, hlists⟩

end System
end ChunkVault.Memory
