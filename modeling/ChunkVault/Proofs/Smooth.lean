/-
# ChunkVault.Proofs.Smooth -- operations that nothing disturbs

An exchange is smooth if the call was made and succeeded, and if the token was not found to have fired. The
runs of the four operations that consist of such exchanges are few: a save commits a whole upload, or rolls
one back because its source fails (`save_smooth`); a delete commits (`delete_smooth`); opening and annotating
ask one question each, and answer what they are told (`open_ends`, `setMetadata_ends`). That holds over
any store.

Chunks are inserted and a file is finished only in a transaction that has inserted the file before
(`Operation.requires`), which is why a store without faults has no reason to refuse them.
-/
import ChunkVault.Proofs.Operations
import ChunkVault.Proofs.Stopping

namespace ChunkVault

open Program

/-! ## Smooth exchanges -/

/-- A call that succeeded, with an id of the store's if it inserted a row. -/
def CallRecord.Sound : CallRecord → Prop
  | ⟨.insertFile _, outcome⟩ | ⟨.insertChunk .., outcome⟩ => ∃ n, outcome = some (.ok (Uuid.issue n))
  | ⟨_, outcome⟩ => ∃ v, outcome = some (.ok v)

theorem CallRecord.Sound.exists_ok {c : CallRecord} (h : c.Sound) : ∃ v, c.outcome = some (.ok v) := by
  obtain ⟨q, outcome⟩ := c
  cases q with
  | insertFile tx => exact ⟨_, h.choose_spec⟩
  | insertChunk tx file bytes => exact ⟨_, h.choose_spec⟩
  | _ => exact h

theorem CallRecord.Sound.not_failed {c : CallRecord} (h : c.Sound) : ¬c.Failed := fun hfail => by
  obtain ⟨v, hv⟩ := h.exists_ok
  exact hfail v hv

/-- An exchange that nothing has disturbed: the call was made and succeeded, the token has not fired. -/
def Exchange.Smooth : Exchange → Prop
  | ⟨.call q, outcome⟩ => CallRecord.Sound ⟨q, some outcome⟩
  | ⟨.race _ q, race⟩ => ∃ outcome, race = .finished outcome ∧ CallRecord.Sound ⟨q, some outcome⟩
  | ⟨.fired _, answer⟩ => answer = false
  | ⟨.wait _, _⟩ => False
  | ⟨.fire _, _⟩ | ⟨.count .., _⟩ => True

namespace Exchange.Smooth

variable {x : Exchange} {es : List Exchange} {token : Token}

theorem sound (h : x.Smooth) {c : CallRecord} (hc : x.call? = some c) : c.Sound := by
  obtain ⟨query, answer⟩ := x
  cases query with
  | call q =>
    obtain rfl := Option.some.inj hc
    exact h
  | race t q =>
    obtain ⟨o, rfl, hsound⟩ := h
    obtain rfl := Option.some.inj hc
    exact hsound
  | fired t => cases hc
  | wait t => cases hc
  | fire names => cases hc
  | count method failed => cases hc

theorem not_hinders (h : x.Smooth) : ¬x.Hinders token := by
  obtain ⟨query, answer⟩ := x
  cases query with
  | call q =>
    rintro ⟨e, rfl⟩
    exact CallRecord.Sound.not_failed h fun v => nofun
  | race t q =>
    obtain ⟨o, rfl, hsound⟩ := h
    rintro ⟨-, e, rfl⟩
    exact hsound.not_failed fun v => nofun
  | fired t =>
    obtain rfl : answer = false := h
    exact fun h => nomatch h.2
  | wait t => exact h.elim
  | fire names => exact not_false
  | count method failed => exact not_false

theorem not_stops (h : x.Smooth) {e : StorageError} : ¬x.Stops token e := by
  intro hstops
  refine @not_hinders x token h ?_
  obtain ⟨query, answer⟩ := x
  cases query with
  | call q => exact absurd hstops not_false
  | race t q => exact ⟨hstops.1, e, hstops.2⟩
  | fired t => exact ⟨hstops.1, hstops.2.1⟩
  | wait t => exact hstops.1
  | fire names => exact absurd hstops not_false
  | count method failed => exact absurd hstops not_false

end Exchange.Smooth

variable {es : List Exchange}

theorem sound_of_calls (h : ∀ x ∈ es, x.Smooth) {c : CallRecord} (hc : c ∈ calls es) : c.Sound := by
  obtain ⟨x, hx, hcall⟩ := List.mem_filterMap.mp hc
  exact (h x hx).sound hcall

theorem not_hindered (h : ∀ x ∈ es, x.Smooth) (token : Token) : ¬Hindered token es := fun ⟨x, hx, hh⟩ =>
  (h x hx).not_hinders hh

/-! ## Smooth runs -/

/-- A commit that was made and succeeded, or a rollback that was. -/
theorem CallRecord.Sound.eq_ok {q : Request} {o : q.Outcome} (h : CallRecord.Sound ⟨q, some o⟩) :
    ∃ v, o = .ok v := by
  obtain ⟨v, hv⟩ := h.exists_ok
  exact ⟨v, Option.some.inj hv⟩

/-- Calls that all succeeded have followed their script without a deviation. -/
theorem Attempts.prefix_of_sound {l script : List CallRecord} (h : Attempts l script)
    (hl : ∀ c ∈ l, c.Sound) : l <+: script := by
  obtain ⟨done, next, rest, rfl, rfl | ⟨c, rfl, -, hfail⟩⟩ := h
  · exact List.prefix_append _ _
  · exact absurd hfail (hl c (List.mem_append_right _ (List.mem_singleton.mpr rfl))).not_failed

/-- A save that nothing disturbs fails only with the error of its source. -/
theorem save_smooth_error {token : Token} {source : Source} {e : StorageError}
    (h : (Storage.save token source).Ends es (.error e)) (hes : ∀ x ∈ es, x.Smooth) :
    source.ending.error? = some e := by
  generalize hr : (.error e : Except StorageError Uuid) = r at h
  cases save_stops h with
  | stopped heq hpass hunfailed hstops hcontext htail hnone =>
    have hx := hes _ (heq ▸ List.mem_append_right _ List.mem_cons_self)
    exact absurd hstops hx.not_stops
  | faulted heq hpass hfailed htail hnone =>
    obtain rfl := Except.error.inj hr
    rw [hfailed.1]
    rfl
  | @settled front tx file o failed heq hpass hfinished hfile =>
    -- the commit has succeeded, and so has the save
    have hcommit : Exchange.Smooth ⟨.call (.commit tx), o⟩ :=
      hes _ (heq ▸ List.mem_append_right _ (List.mem_cons_of_mem _ List.mem_cons_self))
    obtain ⟨v, rfl⟩ := CallRecord.Sound.eq_ok (hcommit.sound rfl)
    cases hr

/-- **A save that nothing disturbs** commits its upload, unless its source fails; then it rolls back what it
has uploaded so far. -/
theorem save_smooth {token : Token} {source : Source} {r : Except StorageError Uuid}
    (h : (Storage.save token source).Ends es r) (hes : ∀ x ∈ es, x.Smooth) :
    (∃ tx file rows, r = .ok file ∧ source.ending = .ended ∧ RowsOf file (pieces source.delivered) rows ∧
        calls es = .ok .begin tx :: (uploadCalls tx file rows ++ [.ok (.commit tx) ()])) ∨
      ∃ e tx file rows l, r = .error e ∧ source.ending.error? = some e ∧
        RowsOf file (pieces source.delivered) rows ∧ l <+: uploadCalls tx file rows ∧
        calls es = .ok .begin tx :: (l ++ [.ok (.rollback tx) ()]) := by
  have hsound : ∀ c ∈ calls es, c.Sound := fun c => sound_of_calls hes
  cases save_ends h with
  | unbegun hcalls hwhy => exact absurd hwhy (not_hindered hes token)
  | @rolledBack e tx file rows l o hrows hl hcalls hwhy =>
    rw [hcalls] at hsound
    have hlast := hsound _ (List.mem_cons_of_mem _ (List.mem_append_right l (List.mem_singleton.mpr rfl)))
    obtain ⟨v, rfl⟩ := hlast.eq_ok
    refine .inr ⟨e, tx, file, rows, l, rfl, save_smooth_error h hes, hrows, ?_, hcalls⟩
    rcases hl with hl | ⟨rfl, -⟩
    · exact hl.prefix_of_sound fun c hc => hsound c (List.mem_cons_of_mem _ (List.mem_append_left _ hc))
    · exact List.prefix_rfl
  | @committed tx file rows o hrows hend hcalls hwhy =>
    rw [hcalls] at hsound
    have hlast := hsound _ (List.mem_cons_of_mem _ (List.mem_append_right _ (List.mem_singleton.mpr rfl)))
    obtain ⟨v, rfl⟩ := hlast.eq_ok
    exact .inl ⟨tx, file, rows, rfl, hend, hrows, hcalls⟩

/-- A call that was made without disturbance succeeded. -/
theorem call_smooth {q : Request} {o : q.Outcome} (h : (call q).Ends es o) (hes : ∀ x ∈ es, x.Smooth) :
    ∃ v, o = .ok v ∧ calls es = [.ok q v] := by
  obtain rfl := ends_call.mp h
  have hx : Exchange.Smooth ⟨.call q, o⟩ := hes _ (List.mem_singleton.mpr rfl)
  obtain ⟨v, rfl⟩ := CallRecord.Sound.eq_ok (hx.sound rfl)
  exact ⟨v, rfl, rfl⟩

theorem removeRows_smooth {tx : TxId} {id : Uuid} {r : Except StorageError Unit}
    (h : (Storage.removeRows tx id).Ends es r) (hes : ∀ x ∈ es, x.Smooth) :
    ∃ chunks files, r = .ok () ∧ calls es = removeCalls tx id chunks files := by
  unfold Storage.removeRows at h
  simp only [bind_eq, ends_bind] at h
  obtain ⟨es₁, es₂, o, rfl, hcall, h⟩ := h
  obtain ⟨chunks, rfl, hc₁⟩ := call_smooth hcall fun x hx => hes x (List.mem_append_left _ hx)
  simp only [ends_bind] at h
  obtain ⟨es₃, es₄, o, rfl, hcall, h⟩ := h
  obtain ⟨files, rfl, hc₃⟩ := call_smooth hcall fun x hx =>
    hes x (List.mem_append_right _ (List.mem_append_left _ hx))
  obtain ⟨rfl, rfl⟩ := h
  refine ⟨chunks, files, rfl, ?_⟩
  rw [calls_append, calls_append, hc₁, hc₃]
  rfl

/-- **A delete that nothing disturbs** commits the removal, and succeeds. -/
theorem delete_smooth {id : Uuid} {r : Except StorageError Unit} (h : (Storage.delete id).Ends es r)
    (hes : ∀ x ∈ es, x.Smooth) :
    ∃ tx chunks files, r = .ok () ∧
      calls es = .ok .begin tx :: (removeCalls tx id chunks files ++ [.ok (.commit tx) ()]) := by
  unfold Storage.delete at h
  obtain ⟨run, rfl, hrun⟩ := ends_counted.mp h
  clear h
  rw [calls_append_count]
  replace hes : ∀ x ∈ run, x.Smooth := fun x hx => hes x (List.mem_append_left _ hx)
  simp only [bind_eq, ends_bind] at hrun
  obtain ⟨es₁, es₂, o, rfl, hbegin, h⟩ := hrun
  obtain ⟨tx, rfl, hc₁⟩ := call_smooth hbegin fun x hx => hes x (List.mem_append_left _ hx)
  simp only [ends_bind] at h
  obtain ⟨es₃, es₄, w, rfl, hremove, h⟩ := h
  obtain ⟨chunks, files, rfl, hc₃⟩ := removeRows_smooth hremove fun x hx =>
    hes x (List.mem_append_right _ (List.mem_append_left _ hx))
  obtain ⟨o, rfl, rfl⟩ := settle_ends h
  have hlast : Exchange.Smooth ⟨.call (.commit tx), o⟩ :=
    hes _ (List.mem_append_right _ (List.mem_append_right _ (List.mem_singleton.mpr rfl)))
  obtain ⟨v, rfl⟩ := CallRecord.Sound.eq_ok (hlast.sound rfl)
  refine ⟨tx, chunks, files, rfl, ?_⟩
  rw [calls_append, calls_append, hc₁, hc₃]
  rfl

/-- Whatever numbers of rows a delete is told, it goes on. -/
theorem exists_delete_smooth (tx : TxId) (id : Uuid) (chunks files : Nat) :
    ∃ es, (Storage.delete id).Ends es (.ok ()) ∧ (∀ x ∈ es, x.Smooth) ∧
      calls es = .ok .begin tx :: (removeCalls tx id chunks files ++ [.ok (.commit tx) ()]) := by
  refine ⟨[⟨.call .begin, .ok tx⟩, ⟨.call (.deleteChunks tx id), .ok chunks⟩,
    ⟨.call (.deleteFile tx id), .ok files⟩, ⟨.call (.commit tx), .ok ()⟩, ⟨.count .delete false, ()⟩], ?_, ?_, rfl⟩
  · exact ⟨_, _, rfl, _, _, rfl, _, _, rfl, _, _, rfl, _, _, rfl, rfl, rfl⟩
  · simp only [List.forall_mem_cons]
    exact ⟨⟨tx, rfl⟩, ⟨chunks, rfl⟩, ⟨files, rfl⟩, ⟨(), rfl⟩, trivial, nofun⟩

/-- What opening a file answers, from what the look-up brought. -/
def opened (token : Token) : Except StorageError (Option FileRecord) → Except StorageError StoredFile
  | .error e => .error e
  | .ok none => .error .notFound
  | .ok (some file) => .ok ⟨file.info, .new token file.size file.chunkIds⟩

/-- **Opening a file asks for its row**, and answers what it is told. -/
theorem open_ends {token : Token} {id : Uuid} {r : Except StorageError StoredFile} :
    (Storage.open token id).Ends es r ↔
      ∃ race, es = [⟨.race token (.findFile id), race⟩, ⟨.count .open (isFailure r), ()⟩] ∧
        r = opened token race.outcome := by
  have hopen : Storage.open token id =
      counted .open ((race token (.findFile id)).bind fun o => .done (opened token o)) := by
    unfold Storage.open
    congr 2
    funext o
    cases o with
    | error e => rfl
    | ok found => cases found <;> rfl
  rw [hopen, ends_counted]
  constructor
  · rintro ⟨es₁, rfl, h⟩
    obtain ⟨_, _, o, rfl, hrace, rfl, rfl⟩ := ends_bind.mp h
    obtain ⟨race, rfl, rfl⟩ := ends_race.mp hrace
    exact ⟨race, rfl, rfl⟩
  · rintro ⟨race, rfl, rfl⟩
    exact ⟨[⟨.race token (.findFile id), race⟩], rfl,
      ends_bind.mpr ⟨_, [], _, rfl, ends_race.mpr ⟨race, rfl, rfl⟩, rfl, rfl⟩⟩

/-- What annotating a file answers, from the number of rows that were touched. -/
def annotated : Except StorageError Nat → Except StorageError Unit
  | .error e => .error (e.intoUnknown "update metadata")
  | .ok rows => if rows = 0 then .error .notFound else .ok ()

/-- **Annotating a file is one call**, which says how many rows it has touched. -/
theorem setMetadata_ends {id : Uuid} {data : Bytes} {r : Except StorageError Unit} :
    (Storage.setMetadata id data).Ends es r ↔
      ∃ o, es = [⟨.call (.updateMetadata id (some data)), o⟩, ⟨.count .setMetadata (isFailure r), ()⟩] ∧
        r = annotated o := by
  have hset : Storage.setMetadata id data =
      counted .setMetadata ((call (.updateMetadata id (some data))).bind fun o => .done (annotated o)) := by
    unfold Storage.setMetadata
    congr 2
    funext o
    cases o with
    | error e => rfl
    | ok rows =>
      show (if rows = 0 then _ else _) = Program.done (if rows = 0 then _ else _)
      split <;> rfl
  rw [hset, ends_counted]
  constructor
  · rintro ⟨es₁, rfl, h⟩
    obtain ⟨_, _, o, rfl, hcall, rfl, rfl⟩ := ends_bind.mp h
    obtain rfl := ends_call.mp hcall
    exact ⟨o, rfl, rfl⟩
  · rintro ⟨o, rfl, rfl⟩
    exact ⟨[⟨.call (.updateMetadata id (some data)), o⟩], rfl,
      ends_bind.mpr ⟨_, [], o, rfl, ends_call.mpr rfl, rfl, rfl⟩⟩

/-! ## What a transaction has to have inserted -/

/-- The transaction and the file that a call is refused without. -/
def Request.requires? : Request → Option (TxId × Uuid)
  | insertChunk tx file _ | finishFile tx file .. => some (tx, file)
  | _ => none

/-- What the calls of an upload leave in its transaction: the file, and nothing that takes it away. -/
structure Inserts (tx : TxId) (file : Uuid) (l : List CallRecord) : Prop where
  inserted : .ok (.insertFile tx) file ∈ l
  writes : ∀ c ∈ l, c.request.writesTo? = some tx
  keeps : ∀ c ∈ l, ∀ id, c.request ≠ .deleteFile tx id

/-- An attempt is cut where one of its calls was made: before it the script was followed. -/
theorem Attempts.split {l m script : List CallRecord} {c : CallRecord} (h : Attempts (l ++ c :: m) script) :
    ∃ next rest, script = l ++ next :: rest ∧ c.request = next.request := by
  obtain ⟨done, next, rest, rfl, hdone | ⟨last, hlast, hreq, -⟩⟩ := h
  · rw [← hdone]
    exact ⟨c, m ++ next :: rest, by simp only [List.append_assoc, List.cons_append], rfl⟩
  · rcases append_cons_eq_concat hlast with ⟨rfl, rfl⟩ | ⟨m', rfl⟩
    · -- the call is the one that failed
      exact ⟨next, rest, rfl, hreq⟩
    · exact ⟨c, m' ++ next :: rest, by simp only [List.append_assoc, List.cons_append], rfl⟩

/-- In the script of an upload the file comes before what is said of it. -/
theorem inserts_of_split {tx n : TxId} {file id : Uuid} {content : List Bytes} {rows : List ChunkRecord}
    {l rest : List CallRecord} {next : CallRecord} (hrows : RowsOf file content rows)
    (h : uploadCalls tx file rows = l ++ next :: rest) (hreq : next.request.requires? = some (n, id)) :
    n = tx ∧ id = file ∧ Inserts tx file l := by
  have hfront : ∀ c ∈ l, c ∈ uploadCalls tx file rows := fun c hc => h ▸ List.mem_append_left _ hc
  have hnext : next ∈ uploadCalls tx file rows := h ▸ List.mem_append_right _ List.mem_cons_self
  cases l with
  | nil =>
    obtain ⟨rfl, -⟩ := List.cons.inj h
    cases hreq
  | cons first l =>
    obtain ⟨rfl, -⟩ := List.cons.inj h
    have hsame : n = tx ∧ id = file := by
      rcases List.mem_cons.mp hnext with rfl | hnext
      · cases hreq
      · rcases List.mem_append.mp hnext with hnext | hnext
        · obtain ⟨row, hrow, rfl⟩ := List.mem_map.mp hnext
          cases hreq
          exact ⟨rfl, hrows.owner row hrow⟩
        · rw [List.mem_singleton.mp hnext] at hreq
          cases hreq
          exact ⟨rfl, rfl⟩
    refine ⟨hsame.1, hsame.2, List.mem_cons_self, fun c hc => writesTo?_of_uploadCalls (hfront c hc), ?_⟩
    intro c hc id' heq
    rcases uploadCalls_request (hfront c hc) with h | ⟨_, _, h⟩ | ⟨_, _, h⟩ <;> rw [h] at heq <;> cases heq

/-- A call within a transaction comes between the calls that open and close it. -/
theorem split_inside {k l rest : List CallRecord} {c first last : CallRecord}
    (h : k ++ c :: rest = first :: (l ++ [last])) (hfirst : c ≠ first) (hlast : c ≠ last) :
    ∃ m rest', k = first :: m ∧ l = m ++ c :: rest' := by
  cases k with
  | nil => exact absurd (List.cons.inj h).1 hfirst
  | cons d m =>
    obtain ⟨rfl, htail⟩ := List.cons.inj h
    rcases append_cons_eq_concat htail with ⟨-, heq⟩ | ⟨rest', rfl⟩
    · exact absurd heq hlast
    · exact ⟨m, rest', rfl, rfl⟩

/-- **What requires a file comes after its insertion**, in the transaction of the operation. -/
theorem save_requires {token : Token} {source : Source} {fs : List Exchange} {x : Exchange} {c : CallRecord}
    {r : Except StorageError Uuid} (h : (Storage.save token source).Ends (es ++ x :: fs) r)
    (hc : x.call? = some c) {tx : TxId} {file : Uuid} (hreq : c.request.requires? = some (tx, file)) :
    ∃ l, calls es = .ok .begin tx :: l ∧ Inserts tx file l := by
  have hcalls : calls (es ++ x :: fs) = calls es ++ c :: calls fs := by
    rw [calls_append, calls_cons, hc]
    rfl
  -- the call is none of those that open or close the transaction, so it stands in the script
  have hother : ∀ d : CallRecord, d.request.requires? = none → c ≠ d := by
    rintro d hd rfl
    rw [hreq] at hd
    cases hd
  cases save_ends h with
  | unbegun hnone _ =>
    rcases hnone with hnone | ⟨d, hone, hbegin, -⟩
    · rw [hcalls] at hnone
      exact absurd hnone (by simp)
    · rw [hcalls] at hone
      have hmem : c ∈ [d] := hone ▸ List.mem_append_right _ List.mem_cons_self
      exact absurd (List.mem_singleton.mp hmem) (hother d (by rw [hbegin]; rfl))
  | @rolledBack e tx' file' rows l o hrows hl hall _ =>
    rw [hcalls] at hall
    obtain ⟨m, rest, hes, rfl⟩ := split_inside hall (hother _ rfl) (hother _ rfl)
    have hsplit : ∃ next rest', uploadCalls tx' file' rows = m ++ next :: rest' ∧ c.request = next.request :=
      hl.elim Attempts.split fun ⟨heq, _⟩ => ⟨c, rest, heq.symm, rfl⟩
    obtain ⟨next, rest', hscript, hnext⟩ := hsplit
    rw [hnext] at hreq
    obtain ⟨rfl, rfl, hinserts⟩ := inserts_of_split hrows hscript hreq
    exact ⟨m, hes, hinserts⟩
  | @committed tx' file' rows o hrows _ hall _ =>
    rw [hcalls] at hall
    obtain ⟨m, rest, hes, hscript⟩ := split_inside hall (hother _ rfl) (hother _ rfl)
    obtain ⟨rfl, rfl, hinserts⟩ := inserts_of_split hrows hscript hreq
    exact ⟨m, hes, hinserts⟩

/-- What a query requires, if it is a call. -/
def Query.requires? : Query → Option (TxId × Uuid)
  | call q | race _ q => q.requires?
  | fired _ | wait _ | fire _ | count .. => none

theorem Exchange.requires?_of_call? {x : Exchange} {c : CallRecord} (hc : x.call? = some c) :
    c.request.requires? = x.query.requires? := by
  obtain ⟨query, answer⟩ := x
  cases query with
  | call q =>
    obtain rfl := Option.some.inj hc
    rfl
  | race token q =>
    cases answer with
    | refused => cases hc
    | abandoned =>
      obtain rfl := Option.some.inj hc
      rfl
    | finished o =>
      obtain rfl := Option.some.inj hc
      rfl
  | fired token => cases hc
  | wait token => cases hc
  | fire names => cases hc
  | count method failed => cases hc

theorem requires?_of_isPoint {q : Request} (h : q.isPoint = true) : q.requires? = none := by
  cases q with
  | findFile id => rfl
  | findChunk id => rfl
  | updateMetadata id data => rfl
  | _ => cases h

/-- A removal requires no file. -/
theorem Query.Removes.requires? {q : Query} (h : q.Removes) : q.requires? = none := by
  unfold Query.Removes at h
  split at h
  all_goals first | rfl | exact h.elim

/-- **A call that requires a file is made by a save**, in the transaction that has inserted the file. -/
theorem Operation.requires {op : Operation} {fs : List Exchange} {x : Exchange} {c : CallRecord}
    {r : Except StorageError op.Value} (h : op.program.Ends (es ++ x :: fs) r)
    (hc : x.call? = some c) {tx : TxId} {file : Uuid} (hreq : c.request.requires? = some (tx, file)) :
    ∃ l, calls es = .ok .begin tx :: l ∧ Inserts tx file l := by
  have hx : x ∈ es ++ x :: fs := List.mem_append_right _ List.mem_cons_self
  have hpoint : c.request.isPoint ≠ true := fun hpoint => by
    rw [requires?_of_isPoint hpoint] at hreq
    cases hreq
  cases op with
  | save token source => exact save_requires h hc hreq
  | «open» token id => exact absurd (Exchange.isPoint_of_call? ((open_asks token id).queries h x hx) hc) hpoint
  | setMetadata id data =>
    exact absurd (Exchange.isPoint_of_call? ((setMetadata_asks id data).queries h x hx) hc) hpoint
  | delete id =>
    rw [Exchange.requires?_of_call? hc, ((delete_asks id).queries h x hx).requires?] at hreq
    cases hreq

end ChunkVault
