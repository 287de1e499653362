/-
# ChunkVault.Proofs.Memory.Simulation -- operations one after another are steps of a map

Operations run on a bench around an empty store, each to its end before the next one begins; nothing fails,
and the tokens are the operations' own. `runAll_vault`: what the store holds before an operation and after it,
read as a map, is a step of the map. What was saved keeps its content and the moment at which it was made,
whatever follows.

Such a history is one of the runs of a system of many operations (`Run.finish`), the one that starts each of
them when the others have ended. So its decisions are known, one for each operation (`Linear.performed`), and
a decision is a step.
-/
import ChunkVault.Proofs.Memory.Vault
import ChunkVault.Proofs.Memory.Watching

namespace ChunkVault

open Program Memory

/-! ## Operations that nobody cancels -/

/-- A query that involves no token that others know, and does not wait for one that nobody fires. -/
def Query.Own : Query → Prop
  | .race token _ | .fired token => token = .own
  | .wait _ => False
  | .call _ | .fire _ | .count .. => True

/-- An operation whose token is its own, if it has one. Nobody can end it then but itself, so its source does not
stall: with one that does it has no end and no answer. -/
def Operation.OwnToken : Operation → Prop
  | save token source => token = .own ∧ source.ending ≠ .stalled
  | «open» token _ => token = .own
  | setMetadata .. | delete _ => True

theorem Query.Uploads.own {ending : SourceEnd} {q : Query} (h : q.Uploads .own ending) (hend : ending ≠ .stalled) :
    q.Own := by
  cases h with
  | race hq => rfl
  | fired => rfl
  | wait hstalled => exact absurd hstalled hend
  | fire names => exact trivial

theorem save_own {source : Source} (hend : source.ending ≠ .stalled) :
    (Storage.save .own source).Asks Query.Own := by
  refine Asks.counted (Asks.bind (Asks.race rfl) fun o => ?_) fun _ => trivial
  cases o with
  | error e => exact trivial
  | ok tx =>
    refine ((writeFile_asks .own tx source).mono fun _ hq => hq.own hend).bind fun w => ?_
    cases w with
    | error e => exact (abandon_asks trivial).bind fun _ => trivial
    | ok file =>
      refine ⟨rfl, fun b => ?_⟩
      cases b with
      | true => exact (abandon_asks trivial).bind fun _ => trivial
      | false => exact settle_asks trivial

theorem Query.Removes.own {q : Query} (h : q.Removes) : q.Own := by
  unfold Query.Removes at h
  split at h
  all_goals first | exact trivial | exact h.elim

/-- **An operation with a token of its own asks for no other.** -/
theorem Operation.asks_own {op : Operation} (h : op.OwnToken) : op.program.Asks Query.Own := by
  cases op with
  | save token source =>
    obtain ⟨rfl, hend⟩ := h
    exact save_own hend
  | «open» token id =>
    obtain rfl : token = .own := h
    exact open_asks_only rfl fun _ => trivial
  | setMetadata id data => exact setMetadata_asks_only trivial fun _ => trivial
  | delete id => exact (delete_asks id).mono fun _ hq => hq.own

namespace Bench

/-- Runs operations one after another, each to its end. -/
def runAll (b : Bench) (ops : List Operation) : Bench := ops.foldl (fun b op => (b.run op.program).2) b

/-- **A quiet bench serves every query** that involves no token that others know. -/
theorem answer_served {b : Bench} {s : Store} (h : b.Quiet s) {q : Query} (hq : q.Own) :
    ∃ s', (Bench.answer q b).2.Quiet s' ∧ Store.Served q s (Bench.answer q b).1 s' := by
  cases q with
  | call q =>
    obtain ⟨b', hrun, h'⟩ := run_call_quiet h q
    have hanswer : Bench.answer (.call q) b = ((s.serve q).1, b') := hrun
    rw [hanswer]
    exact ⟨_, h', rfl, rfl⟩
  | race token q =>
    obtain rfl : token = .own := hq
    obtain ⟨b', hattempt, h'⟩ := attempt_quiet h .own q
    have hanswer : Bench.answer (.race .own q) b = (.finished (s.serve q).1, b') := hattempt
    rw [hanswer]
    exact ⟨_, h', rfl, rfl⟩
  | fired token =>
    obtain rfl : token = .own := hq
    exact ⟨s, h, rfl, rfl⟩
  | wait token => exact hq.elim
  | fire names => exact ⟨s, ⟨h.holds, h.hooks, h.faults⟩, rfl⟩
  | count method failed => exact ⟨s, ⟨h.holds, h.hooks, h.faults⟩, rfl⟩

/-- A run on a quiet bench is one that its store serves. -/
theorem run_served {α : Type} {b : Bench} {s : Store} (h : b.Quiet s) {p : Program α} (hp : p.Asks Query.Own) :
    ∃ es s', p.Ends es (b.run p).1 ∧ (b.run p).2.Quiet s' ∧ Along Store.Served s es s' := by
  induction p generalizing b s with
  | done a => exact ⟨[], s, ⟨rfl, rfl⟩, h, .nil s⟩
  | ask q resume ih =>
    obtain ⟨s₁, h₁, hserved⟩ := answer_served h hp.1
    obtain ⟨es, s', hends, h', halong⟩ := ih _ h₁ (hp.2 _)
    exact ⟨_, s', ⟨_, es, rfl, hends⟩, h', .cons hserved halong⟩

end Bench

namespace Memory

/-! ## A history as a run of a system -/

namespace System

variable {s₀ s s' : Store} {ts : List Task} {op : Operation} {past es : List Exchange}
  {r : Except StorageError op.Value} {ds : List Decision} {σ σ' : System} {order : List Nat}

/-- An operation that is left to itself runs to its end. -/
theorem Run.finish {p : Program (Except StorageError op.Value)} (hends : p.Ends es r)
    (halong : Along Store.Served s es s') :
    ∃ order, (∀ i ∈ order, i = ts.length) ∧
      Run ⟨s, ts ++ [⟨op, past, p⟩]⟩ order ⟨s', ts ++ [⟨op, past ++ es, .done r⟩]⟩ := by
  -- along the program: one step of the system for each query
  induction p generalizing s past es with
  | done a =>
    obtain ⟨rfl, rfl⟩ := hends
    rw [along_nil] at halong
    rw [halong, List.append_nil]
    exact ⟨[], fun i hi => absurd hi List.not_mem_nil, .refl⟩
  | ask q resume ih =>
    obtain ⟨a, rest, rfl, hends⟩ := hends
    obtain ⟨s₁, hserved, halong⟩ := along_cons.mp halong
    have htask : (ts ++ [Task.mk op past (.ask q resume)])[ts.length]? = some ⟨op, past, .ask q resume⟩ := by
      rw [List.getElem?_append_right (Nat.le_refl _), Nat.sub_self]
      rfl
    have hstep : Advance ⟨s, ts ++ [⟨op, past, .ask q resume⟩]⟩ _ _ := .answer htask hserved
    rw [List.set_append_right _ _ (Nat.le_refl _), Nat.sub_self] at hstep
    obtain ⟨order, horder, hrun⟩ := @ih a s₁ (past ++ [⟨q, a⟩]) rest hends halong
    rw [List.append_assoc] at hrun
    refine ⟨_, fun i hi => ?_, (Run.refl.step hstep).trans hrun⟩
    rcases List.mem_append.mp hi with hi | hi
    · rw [List.nil_append] at hi
      split at hi
      · exact List.mem_singleton.mp hi
      · exact absurd hi List.not_mem_nil
    · exact horder i hi

/-- **A whole run of one more operation.** -/
theorem Run.performed (ts : List Task) (hends : op.program.Ends es r) (halong : Along Store.Served s es s') :
    ∃ order, (∀ i ∈ order, i = ts.length) ∧ Run ⟨s, ts⟩ order ⟨s', ts ++ [⟨op, es, .done r⟩]⟩ := by
  obtain ⟨order, horder, hrun⟩ := @Run.finish s s' ts op [] es r _ hends halong
  exact ⟨order, horder, ((Run.refl.step (.start _ op)).trans hrun : Run _ ([] ++ [] ++ order) _)⟩

/-- **An operation that runs alone is decided once**, and ends with what was decided. -/
theorem Linear.performed (h : Linear s₀ ds ⟨s, ts⟩)
    (hrun : Run ⟨s, ts⟩ order ⟨s', ts ++ [⟨op, es, .done r⟩]⟩) (horder : ∀ i ∈ order, i = ts.length) :
    ∃ change, Linear s₀ (ds ++ [⟨ts.length, op, r, change⟩]) ⟨s', ts ++ [⟨op, es, .done r⟩]⟩ ∧
      (s'.issued ≤ Uuid.issueCount → Apart s₀ ds s → Apart s₀ (ds ++ [⟨ts.length, op, r, change⟩]) s') := by
  obtain ⟨more, rfl, hlinear, hapart⟩ := h.run hrun
  have htask : (ts ++ [Task.mk op es (.done r)])[ts.length]? = some ⟨op, es, .done r⟩ := by
    rw [List.getElem?_append_right (Nat.le_refl _), Nat.sub_self]
    rfl
  -- it was not decided before it began, and has been when it has ended
  have hdecided := hlinear.decided_of_done htask
  rw [List.map_append, List.mem_append] at hdecided
  have hnew : ts.length ∈ more.map (·.task) := by
    refine hdecided.resolve_left fun hmem => ?_
    obtain ⟨d, hd, heq⟩ := List.mem_map.mp hmem
    exact absurd heq (Nat.ne_of_lt (h.lt_length hd))
  have hnodup : (more.map (·.task)).Nodup := by
    have hall := hlinear.nodup
    rw [List.map_append] at hall
    exact (List.nodup_append.mp hall).2.1
  obtain ⟨d, rfl⟩ : ∃ d, more = [d] := by
    cases more with
    | nil => exact absurd hnew List.not_mem_nil
    | cons d more =>
      cases more with
      | nil => exact ⟨d, rfl⟩
      | cons e more =>
        -- a second decision would be one of the same operation
        have hd : d.task = ts.length := horder _ (by simp)
        have he : e.task = ts.length := horder _ (by simp)
        simp [hd, he] at hnodup
  obtain ⟨task, operation, answer, change⟩ := d
  obtain rfl : task = ts.length := horder _ List.mem_cons_self
  obtain ⟨past, rest, htask', hconcludes⟩ :=
    hlinear.concluded _ (List.mem_append_right ds (List.mem_singleton.mpr rfl))
  have hsame := htask.symm.trans htask'
  cases hsame
  cases hconcludes
  exact ⟨change, hlinear, hapart⟩

/-- The last decision was taken over the rows that the others have led to. -/
theorem Linear.last_decided (h : Linear s₀ ds σ) {d : Decision} (h' : Linear s₀ (ds ++ [d]) σ') :
    Decides σ.store.tables.untimed d.operation d.seen d.change ∧
      σ'.store.tables.untimed = d.change.apply σ.store.tables.untimed := by
  obtain ⟨t, hbefore, hd, htables⟩ := decided_append.mp h'.decided
  obtain rfl := h.decided.unique hbefore
  exact ⟨hd, htables⟩

end System

/-! ## When a file was made -/

/-- The files of this id were made at this moment. -/
def Tables.MadeAt (t : Tables) (id : Uuid) (made : Timestamp) : Prop :=
  ∀ f ∈ t.files, f.id = id → f.createdAt = made

section MadeAt

variable {t : Tables} {id : Uuid} {made now : Timestamp}

theorem alterFile_madeAt (h : t.MadeAt id made) (other : Uuid) {change : FileRecord → FileRecord}
    (hchange : ∀ f, (change f).id = f.id ∧ (change f).createdAt = f.createdAt) :
    (t.alterFile other change).MadeAt id made := by
  intro f hf hid
  obtain ⟨g, hg, rfl⟩ := List.mem_map.mp hf
  by_cases heq : g.id = other
  · simp only [if_pos heq] at hid ⊢
    rw [(hchange g).1] at hid
    exact (hchange g).2.trans (h g hg hid)
  · simp only [if_neg heq] at hid ⊢
    exact h g hg hid

/-- Only a write that brings a file of this id says when it was made. -/
theorem madeAt_apply {w : Write} (h : t.MadeAt id made) (hnew : w.newId? ≠ some id) :
    (w.apply now t).MadeAt id made := by
  cases w with
  | insertFile f =>
    intro g hg hid
    rcases List.mem_append.mp hg with hg | hg
    · exact h g (List.mem_filter.mp hg).1 hid
    · rw [List.mem_singleton.mp hg] at hid
      exact absurd (congrArg some hid) hnew
  | insertChunk c => exact h
  | finishFile file size ids => exact alterFile_madeAt h file fun _ => ⟨rfl, rfl⟩
  | deleteChunks file => exact h
  | deleteFile file => exact fun f hf => h f (List.mem_filter.mp hf).1

theorem madeAt_apply_all {ws : List Write} (h : t.MadeAt id made) (hnew : id ∉ newIds ws) :
    (ws.foldl (Write.apply now) t).MadeAt id made := by
  induction ws generalizing t with
  | nil => exact h
  | cons w ws ih =>
    refine ih (madeAt_apply h fun heq => hnew ?_) fun hmem => hnew ?_
    · exact List.mem_filterMap.mpr ⟨w, List.mem_cons_self, heq⟩
    · obtain ⟨v, hv, hid⟩ := List.mem_filterMap.mp hmem
      exact List.mem_filterMap.mpr ⟨v, List.mem_cons_of_mem w hv, hid⟩

/-- A call does not change when a file was made, if its id is used up. -/
theorem Store.Made.madeAt {lost : Request → Prop} {c : CallRecord} {s s' : Store}
    (hmade : Store.Made lost c s s') (hid : s.Spent id) (h : s.tables.MadeAt id made) :
    s'.tables.MadeAt id made := by
  rcases hmade.tables_cases with hsame | ⟨tx, now, -, -, happly⟩ | ⟨other, data, now, -, hdata⟩
  · rw [hsame]
    exact h
  · rw [happly]
    exact madeAt_apply_all h (hid.waits tx)
  · rw [hdata]
    exact alterFile_madeAt h other fun _ => ⟨rfl, rfl⟩

/-- **When a file was made stays as it is**, whatever is done. -/
theorem System.Run.madeAt {σ σ' : System} {order : List Nat} (h : System.Run σ order σ')
    (hids : σ'.store.issued ≤ Uuid.issueCount) (hid : σ.store.Spent id) (hmade : σ.store.tables.MadeAt id made) :
    σ'.store.Spent id ∧ σ'.store.tables.MadeAt id made := by
  induction h with
  | refl => exact ⟨hid, hmade⟩
  | step _ hstep ih =>
    obtain ⟨c, hcall⟩ := hstep.exists_made
    obtain ⟨hspent, hmade'⟩ := ih (Nat.le_trans hcall.frame.issued hids)
    exact ⟨hcall.spent hids hspent, hcall.madeAt hspent hmade'⟩

end MadeAt

/-! ## What follows an operation -/

section Follow

variable {t : Tables} {s₀ : Store} {ds : List Decision} {σ σ' : System} {order : List Nat}

/-- Contents and metadata have no stamps. -/
theorem vault_untimed (t : Tables) : t.untimed.vault = t.vault := by
  funext id
  rw [Tables.vault, Tables.vault, t.untimed_file?, Option.map_map]
  rfl

theorem untimed_ids (t : Tables) : t.untimed.files.map (·.id) = t.files.map (·.id) := by
  show (t.files.map FileRecord.untimed).map _ = _
  rw [List.map_map]
  rfl

/-- **Of a file that is deleted no chunk is left.** -/
theorem Tables.Intact.chunk?_of_removed {t t' : Tables} {id : Uuid} (ht : t.untimed.Intact)
    (hremoved : t'.untimed = t.untimed.deleteFile id) {f : FileRecord} (hf : t.file? id = some f)
    {c : Uuid} (hc : c ∈ f.chunkIds) : t'.chunk? c = none := by
  have hchunks : t'.chunks = t.chunks.filter (·.fileId ≠ id) := congrArg Tables.chunks hremoved
  obtain ⟨hmem, rfl⟩ := file?_some hf
  obtain ⟨rows, hlists⟩ := ht.lists f.untimed (List.mem_map_of_mem hmem)
  have hlisted : f.chunkIds = rows.map (·.id) := hlists.chunkIds
  rw [hlisted] at hc
  obtain ⟨d, hd, rfl⟩ := List.mem_map.mp hc
  refine List.find?_eq_none.mpr fun e he heq => ?_
  rw [hchunks] at he
  obtain ⟨he, howner⟩ := List.mem_filter.mp he
  -- a chunk of that id is the one that the file lists
  obtain rfl : e = d := List.inj_on_of_nodup_map ht.chunks he (hlists.stored d hd) (of_decide_eq_true heq)
  exact of_decide_eq_true howner (hlists.owner e hd)

/-- A delete removes its file. -/
theorem Decides.eq_removed {id : Uuid} {v : Except StorageError Unit} {c : Change}
    (h : Decides t (.delete id) v c) : c = .remove id := by
  cases h with
  | deleted => rfl

namespace System

/-- The id of a row is used up. -/
theorem Linear.spent (h : Linear s₀ ds σ) (hapart : Apart s₀ ds σ.store) {id : Uuid} {f : FileRecord}
    (hf : σ.store.tables.file? id = some f) : σ.store.Spent id := by
  have hrow := mem_rowIds_of_file? hf
  rw [← σ.store.tables.untimed_rowIds] at hrow
  exact hapart.spent id (rowIds_of_decided h.decided hrow)

/-- **A file that stays keeps its content and the moment at which it was made.** -/
theorem Linear.kept (h : Linear s₀ ds σ) (hapart : σ.store.issued ≤ Uuid.issueCount → Apart s₀ ds σ.store)
    (hs₀ : s₀.tables.untimed.Intact) (hrun : Run σ order σ') (hids : σ'.store.issued ≤ Uuid.issueCount)
    {id : Uuid} {f g : FileRecord} (hf : σ.store.tables.file? id = some f)
    (hg : σ'.store.tables.file? id = some g) :
    g.createdAt = f.createdAt ∧ σ'.store.tables.content g = σ.store.tables.content f := by
  have hapart := hapart (Nat.le_trans hrun.issued_le hids)
  have hspent := h.spent hapart hf
  have hintact := h.decided.intact hapart.fresh hs₀
  constructor
  · -- there is one row of this id now, and no other will be brought
    have hmade : σ.store.tables.MadeAt id f.createdAt := by
      intro f' hf' hid
      obtain ⟨hmem, heq⟩ := file?_some hf
      have hnodup := hintact.files
      rw [untimed_ids] at hnodup
      rw [List.inj_on_of_nodup_map hnodup hf' hmem (hid.trans heq.symm)]
    obtain ⟨hmem, heq⟩ := file?_some hg
    exact (hrun.madeAt hids hspent hmade).2 g hmem heq
  · obtain ⟨more, -, hlinear, hapart'⟩ := h.run hrun
    have hfresh := (hapart' hids hapart).fresh
    obtain ⟨t, hbefore, hafter⟩ := decided_append.mp hlinear.decided
    obtain rfl := h.decided.unique hbefore
    have hnew : id ∉ broughtIds more := fun hbrought =>
      (hfresh.rest hbefore).unused id hbrought (by
        rw [Tables.untimed_rowIds]
        exact mem_rowIds_of_file? hf)
    have hentry : σ'.store.tables.untimed.vault id = some ⟨σ'.store.tables.content g, g.metadata⟩ := by
      rw [vault_untimed]
      exact congrArg (Option.map _) hg
    obtain ⟨old, hold, hcontent⟩ := hafter.content_kept (hfresh.rest hbefore) hintact hnew hentry
    rw [vault_untimed] at hold
    have hold' : σ.store.tables.vault id = some ⟨σ.store.tables.content f, f.metadata⟩ :=
      congrArg (Option.map _) hf
    obtain rfl := Option.some.inj (hold.symm.trans hold')
    exact hcontent.symm

end System
end Follow
end Memory

/-! ## Histories -/

namespace Bench

open System

theorem runAll_run {b : Bench} {s : Store} (h : b.Quiet s) (ts : List Task) {ops : List Operation}
    (hown : ∀ o ∈ ops, o.OwnToken) :
    ∃ s' ts' order, (b.runAll ops).Quiet s' ∧ Run ⟨s, ts⟩ order ⟨s', ts'⟩ := by
  induction ops generalizing b s ts with
  | nil => exact ⟨s, ts, [], h, .refl⟩
  | cons op ops ih =>
    obtain ⟨es, s₁, hends, h₁, halong⟩ := run_served h (Operation.asks_own (hown op List.mem_cons_self))
    obtain ⟨order, -, hrun⟩ := Run.performed ts hends halong
    obtain ⟨s', ts', order', h', hrun'⟩ := ih h₁ _ fun o ho => hown o (List.mem_cons_of_mem op ho)
    exact ⟨s', ts', _, h', hrun.trans hrun'⟩

/-- **Operations that run one after another are steps of a map.** What the store holds before an operation and
after it, read as a map, is a step, with the answer that the operation gives. A delete takes the chunks of its
file along. Whatever follows, a file that is there after the operation and at the end has kept its content and
the moment at which it was made. -/
theorem runAll_vault {before later : List Operation} {op : Operation}
    (hown : ∀ o ∈ before ++ op :: later, o.OwnToken) :
    let b := (Bench.new (.memory .empty)).runAll before
    let b' := (b.run op.program).2
    ∃ s s' s'', b.Holds s ∧ b'.Holds s' ∧ (b'.runAll later).Holds s'' ∧
      (s''.issued ≤ Uuid.issueCount →
        s.tables.vault.Step op (b.run op.program).1 s'.tables.vault ∧
        (∀ id, op = .delete id → s'.tables.chunks = s.tables.chunks.filter (·.fileId ≠ id) ∧
          ∀ f, s.tables.file? id = some f → ∀ c ∈ f.chunkIds, s'.tables.chunk? c = none) ∧
        ∀ id f g, s'.tables.file? id = some f → s''.tables.file? id = some g →
          g.createdAt = f.createdAt ∧ s''.tables.content g = s'.tables.content f) := by
  intro b b'
  have hquiet : (Bench.new (.memory .empty)).Quiet .empty := ⟨rfl, rfl, rfl⟩
  have hempty : Store.empty.tables.untimed.Intact := Tables.Intact.empty
  -- the operations before it
  obtain ⟨s, ts, order, h, hbefore⟩ := runAll_run hquiet [] fun o ho => hown o (List.mem_append_left _ ho)
  obtain ⟨ds, -, hlinear, hapart⟩ := hbefore.linear rfl
  replace hapart := hapart Store.Agrees.empty.unmixed
  -- the operation
  obtain ⟨es, s', hends, h', halong⟩ := run_served h (Operation.asks_own (hown op (List.mem_append_right before List.mem_cons_self)))
  obtain ⟨order', horder, hrun⟩ := Run.performed ts hends halong
  obtain ⟨change, hlinear', hapart'⟩ := hlinear.performed hrun horder
  -- the operations after it
  have hrest : ∀ o ∈ later, o.OwnToken := fun o ho =>
    hown o (List.mem_append_right before (List.mem_cons_of_mem op ho))
  obtain ⟨s'', ts'', order'', h'', hlater⟩ := runAll_run h' _ hrest
  refine ⟨s, s', s'', h.holds, h'.holds, h''.holds, fun hids => ?_⟩
  have hids' : s'.issued ≤ Uuid.issueCount := Nat.le_trans hlater.issued_le hids
  have hfirst := hapart (Nat.le_trans hrun.issued_le hids')
  have hintact := hlinear.decided.intact hfirst.fresh hempty
  have hfresh := (hapart' hids' hfirst).fresh
  obtain ⟨hdecides, htables⟩ := hlinear.last_decided hlinear'
  have hnodup := hfresh.change (List.mem_append_right ds (List.mem_singleton.mpr rfl))
  have hunused : ∀ i ∈ change.newIds, i ∉ s.tables.untimed.rowIds := fun i hi =>
    (hfresh.rest hlinear.decided).unused i (List.mem_flatMap.mpr ⟨_, List.mem_cons_self, hi⟩)
  refine ⟨?_, ?_, fun id f g => hlinear'.kept (fun _ => hapart' hids' hfirst) hempty hlater hids⟩
  · have hstep := hdecides.vaultStep hintact hunused
    rw [← vault_apply hintact hnodup hunused, ← htables, vault_untimed, vault_untimed] at hstep
    exact hstep
  · rintro id rfl
    obtain rfl := hdecides.eq_removed
    exact ⟨congrArg Tables.chunks htables, fun f hf c hc => hintact.chunk?_of_removed htables hf hc⟩

/-- Of two files of one byte the first is deleted, and then the second one gets metadata: it still has its
byte, and the chunk of the first is gone. -/
theorem runAll_vault_two_files :
    let b := (Bench.new (.memory .empty)).runAll [.save .own [.bytes [97]], .save .own [.bytes [98]]]
    let b' := (b.run (Operation.delete (.issue 0)).program).2
    ∃ s s' s'', b.Holds s ∧ b'.Holds s' ∧ (b'.runAll [.setMetadata (.issue 2) [1]]).Holds s'' ∧
      s.tables.vault.Step (.delete (.issue 0)) (.ok ()) s'.tables.vault ∧
      s.tables.vault (.issue 0) = some ⟨[97], none⟩ ∧ s'.tables.chunk? (.issue 1) = none ∧
      ∃ f g, s'.tables.file? (.issue 2) = some f ∧ s''.tables.file? (.issue 2) = some g ∧
        g.metadata = some [1] ∧ g.createdAt = f.createdAt ∧ s''.tables.content g = s'.tables.content f := by
  intro b b'
  have hown : ∀ o ∈ [Operation.save .own [.bytes [97]], .save .own [.bytes [98]]] ++
      .delete (.issue 0) :: [.setMetadata (.issue 2) [1]], o.OwnToken := by
    simp [Operation.OwnToken, Source.ending, Source.delivery]
  obtain ⟨s, s', s'', h, h', h'', hsteps⟩ := runAll_vault hown
  refine ⟨s, s', s'', h, h', h'', ?_⟩
  -- what the three stores say of the two files
  have hfirst : b.store?.map (fun s => (s.tables.vault (.issue 0), (s.tables.file? (.issue 0)).map (·.chunkIds))) =
      some (some ⟨[97], none⟩, some [.issue 1]) := by decide +kernel
  have hsecond : b'.store?.map (fun s => (s.tables.file? (.issue 2)).isSome) = some true := by decide +kernel
  have hlast : (b'.runAll [.setMetadata (.issue 2) [1]]).store?.map (fun s =>
      (s.issued, (s.tables.file? (.issue 2)).bind (·.metadata))) = some (4, some [1]) := by decide +kernel
  rw [h.store?] at hfirst
  rw [h'.store?] at hsecond
  rw [h''.store?] at hlast
  obtain ⟨hvault, hchunks⟩ := Prod.mk.inj (Option.some.inj hfirst)
  obtain ⟨deleted, hdeleted, hchunks⟩ := Option.map_eq_some_iff.mp hchunks
  obtain ⟨f, hf⟩ := Option.isSome_iff_exists.mp (Option.some.inj hsecond)
  obtain ⟨hissued, hannotated⟩ := Prod.mk.inj (Option.some.inj hlast)
  obtain ⟨g, hg, hmetadata⟩ := Option.bind_eq_some_iff.mp hannotated
  obtain ⟨hstep, hdelete, hkept⟩ := hsteps (by rw [hissued]; decide)
  have hgone : s'.tables.chunk? (.issue 1) = none :=
    (hdelete _ rfl).2 deleted hdeleted _ (by rw [hchunks]; exact List.mem_singleton_self _)
  exact ⟨hstep, hvault, hgone, f, g, hf, hg, hmetadata, hkept _ f g hf hg⟩

end Bench
end ChunkVault
