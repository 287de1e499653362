/-
# ChunkVault.Proofs.Memory.Linearization -- many operations at once, as if one after another

Any number of operations run over one store in memory, and readers fetch chunks from it meanwhile; nothing
fails and no token fires. In each step one operation is begun or answered its next query (`Advance`). An
operation takes effect at the call that decides it, so a run has an order in which its operations were
decided (`Run`).

`Linear` is what holds after every step: the operations that were decided, one after another in this order
and each with the store to itself, answer what they answer here and lead to the rows that are here. That
takes no assumption on ids. If the store issues every id once, nothing that was acknowledged is lost
(`Run.linearizable`).
-/
import ChunkVault.Proofs.Memory.Effects

namespace ChunkVault.Memory

open Program

/-! ## Runs without disturbance -/

namespace System

/-- One step, with the operations that it decides. -/
inductive Advance : System → List Nat → System → Prop
  /-- An operation begins. -/
  | start (σ : System) (op : Operation) : Advance σ [] ⟨σ.store, σ.tasks ++ [⟨op, [], op.program⟩]⟩
  /-- An operation is answered a query. -/
  | answer {σ : System} {i : Nat} {op : Operation} {past : List Exchange} {q : Query}
      {resume : q.Answer → Program (Except StorageError op.Value)} {a : q.Answer} {s' : Store}
      (htask : σ.tasks[i]? = some ⟨op, past, .ask q resume⟩) (h : Store.Served q σ.store a s') :
      Advance σ (if q.decides then [i] else []) ⟨s', σ.tasks.set i ⟨op, past ++ [⟨q, a⟩], resume a⟩⟩
  /-- A reader fetches a chunk. -/
  | fetch (σ : System) (id : Uuid) : Advance σ [] ⟨(σ.store.serve (.findChunk id)).2, σ.tasks⟩

/-- Any number of steps, with the operations that they decide in their order. -/
inductive Run (σ₀ : System) : List Nat → System → Prop
  | refl : Run σ₀ [] σ₀
  | step {order new : List Nat} {σ σ' : System} (h : Run σ₀ order σ) (hstep : Advance σ new σ') :
      Run σ₀ (order ++ new) σ'

/-- A decided operation: nothing is left of it but to count, and it ends with this answer or has done so. -/
def Concluded (σ : System) (d : Decision) : Prop :=
  ∃ past rest, σ.tasks[d.task]? = some ⟨d.operation, past, rest⟩ ∧ Concludes d.answer rest

end System

/-- An operation that is not decided yet. -/
structure Task.Undecided (t : Task) : Prop where
  past : ∀ x ∈ t.past, x.query.decides = false
  rest : t.rest.DecidesLast

/-- What holds of the operations under way, as long as nothing is disturbed. -/
structure System.Calm (σ : System) : Prop where
  faults : σ.store.faults = .none
  traced : ∀ t ∈ σ.tasks, t.operation.program.Trace t.past t.rest
  smooth : ∀ t ∈ σ.tasks, ∀ x ∈ t.past, x.Smooth
  owned : σ.store.Owned (σ.tasks.map Task.history)

/-- What holds after every step, with the operations that were decided so far. -/
structure System.Linear (s₀ : Store) (ds : List Decision) (σ : System) : Prop where
  calm : σ.Calm
  undecided : ∀ (i : Nat) (t : Task), σ.tasks[i]? = some t → i ∉ ds.map (·.task) → t.Undecided
  concluded : ∀ d ∈ ds, σ.Concluded d
  nodup : (ds.map (·.task)).Nodup
  sequential : ∃ s, s₀.Sequential ds s ∧ s.faults = .none ∧ s.tables.untimed = σ.store.tables.untimed
  decided : Decided s₀.tables.untimed ds σ.store.tables.untimed

namespace System

variable {s₀ s' : Store} {ds : List Decision} {σ σ' : System} {order new : List Nat}

theorem Calm.init (hs : s₀.faults = .none) : Calm ⟨s₀, []⟩ where
  faults := hs
  traced _ ht := absurd ht List.not_mem_nil
  smooth _ ht := absurd ht List.not_mem_nil
  owned := ⟨fun _ _ h => (nomatch h), fun _ _ _ _ h => (nomatch h), fun _ _ _ h => (nomatch h)⟩

theorem Linear.init (hs : s₀.faults = .none) : Linear s₀ [] ⟨s₀, []⟩ where
  calm := .init hs
  undecided _ _ h := nomatch h
  concluded _ hd := absurd hd List.not_mem_nil
  nodup := List.nodup_nil
  sequential := ⟨s₀, rfl, hs, rfl⟩
  decided := rfl

/-- What was decided is the operation of a task. -/
theorem Linear.lt_length (h : Linear s₀ ds σ) {d : Decision} (hd : d ∈ ds) : d.task < σ.tasks.length := by
  obtain ⟨past, rest, htask, -⟩ := h.concluded d hd
  exact (List.getElem?_eq_some_iff.mp htask).1

/-! ## An operation begins -/

theorem Calm.start (h : Calm σ) (op : Operation) : Calm ⟨σ.store, σ.tasks ++ [⟨op, [], op.program⟩]⟩ where
  faults := h.faults
  traced := traced_start h.traced op
  smooth := List.forall_mem_append.mpr
    ⟨h.smooth, List.forall_mem_singleton.mpr fun x hx => absurd hx List.not_mem_nil⟩
  owned := by
    rw [histories_start]
    exact h.owned.start

theorem Linear.start (h : Linear s₀ ds σ) (op : Operation) :
    Linear s₀ ds ⟨σ.store, σ.tasks ++ [⟨op, [], op.program⟩]⟩ where
  calm := h.calm.start op
  undecided i t ht hi := by
    rw [List.getElem?_append] at ht
    split at ht
    · exact h.undecided i t ht hi
    · rw [List.mem_singleton.mp (List.mem_of_getElem? ht)]
      exact ⟨fun x hx => absurd hx List.not_mem_nil, op.decidesLast⟩
  concluded d hd := by
    obtain ⟨past, rest, htask, hrest⟩ := h.concluded d hd
    exact ⟨past, rest, (List.getElem?_append_left (h.lt_length hd)).trans htask, hrest⟩
  nodup := h.nodup
  sequential := h.sequential
  decided := h.decided

/-! ## A reader fetches a chunk -/

/-- The number of fetches is of no consequence. -/
theorem Linear.refetched (h : Linear s₀ ds σ) (n : Nat) :
    Linear s₀ ds ⟨{ σ.store with fetches := n }, σ.tasks⟩ := by
  obtain ⟨⟨hfaults, htraced, hsmooth, hnamed, hapart, hwaits⟩, hundecided, hconcluded, hnodup, hseq, hdecided⟩ := h
  exact ⟨⟨hfaults, htraced, hsmooth, hnamed, hapart, hwaits⟩, hundecided, hconcluded, hnodup, hseq, hdecided⟩

/-- A fetch leaves everything as it is but the number of fetches. -/
theorem Linear.fetch (h : Linear s₀ ds σ) (id : Uuid) :
    Linear s₀ ds ⟨(σ.store.serve (.findChunk id)).2, σ.tasks⟩ := by
  rw [Store.serve_findChunk]
  exact h.refetched _

/-! ## An operation is answered -/

section Answer

variable {i : Nat} {op : Operation} {past : List Exchange} {q : Query}
  {resume : q.Answer → Program (Except StorageError op.Value)} {a : q.Answer}

/-- The tasks after an answer: the one that was answered, and the others as they were. -/
theorem getElem?_set_cases {ts : List Task} {t t' : Task} {j : Nat} (h : (ts.set i t)[j]? = some t') :
    i = j ∧ t' = t ∨ i ≠ j ∧ ts[j]? = some t' := by
  rw [List.getElem?_set] at h
  split at h
  · next heq =>
    split at h
    · exact .inl ⟨heq, (Option.some.inj h).symm⟩
    · cases h
  · next hne => exact .inr ⟨hne, h⟩

/-- **Nothing that an operation asks fails**, whatever the others have done. -/
theorem Calm.smooth_answer (h : Calm σ) (htask : σ.tasks[i]? = some ⟨op, past, .ask q resume⟩)
    (hserved : Store.Served q σ.store a s') : Exchange.Smooth ⟨q, a⟩ := by
  have hmem := List.mem_of_getElem? htask
  refine hserved.smooth h.faults fun tx file hreq => ?_
  -- a call that requires a file is one of a transaction that has inserted it
  rcases hserved.cases with ⟨-, -, -, hno⟩ | ⟨r, hcall, -, -, hr⟩
  · rw [hreq] at hno
    cases hno
  · obtain ⟨fs, v, hends⟩ := (h.traced _ hmem).exists_ends a
    obtain ⟨l, hpast, hinserts⟩ := Operation.requires hends hcall (hr.symm.trans hreq)
    obtain ⟨hopen, hleft⟩ := h.owned.waits i tx l (hpast ▸ history_of_task htask) hinserts.writes
    have hsound : ∀ c ∈ calls past, c.Sound := fun c => sound_of_calls (h.smooth _ hmem)
    rw [hpast] at hsound
    exact Store.sees_of_inserts hinserts (fun c hc => hsound c (List.mem_cons_of_mem _ hc)) hopen hleft

theorem Calm.answer (h : Calm σ) (htask : σ.tasks[i]? = some ⟨op, past, .ask q resume⟩)
    (hserved : Store.Served q σ.store a s') :
    Calm ⟨s', σ.tasks.set i ⟨op, past ++ [⟨q, a⟩], resume a⟩⟩ where
  faults := hserved.faults h.faults
  traced := traced_answer h.traced htask a
  smooth t ht := by
    rcases List.mem_or_eq_of_mem_set ht with ht | rfl
    · exact h.smooth t ht
    · exact List.forall_mem_append.mpr ⟨h.smooth _ (List.mem_of_getElem? htask),
        List.forall_mem_singleton.mpr (h.smooth_answer htask hserved)⟩
  owned := by
    rcases @Store.Answers.made_cases (fun _ => False) (Exchange.mk q a) _ _ hserved.answers with
      ⟨hnone, rfl⟩ | ⟨c, hcall, hmade⟩
    · rw [histories_answer_of_none htask hnone]
      exact h.owned
    · obtain ⟨fs, v, hends⟩ := (h.traced _ (List.mem_of_getElem? htask)).exists_ends a
      rw [histories_answer, hcall, Option.toList_some]
      exact h.owned.made (history_of_task htask) (Operation.nextCall hends hcall) hmade

/-- Tasks that were not answered are where they were. -/
theorem Concluded.others {d : Decision} (h : σ.Concluded d) {t : Task} (hne : i ≠ d.task) :
    Concluded ⟨s', σ.tasks.set i t⟩ d := by
  obtain ⟨past, rest, htask, hrest⟩ := h
  exact ⟨past, rest, (List.getElem?_set_ne hne).trans htask, hrest⟩

/-- An operation that was decided asks nothing that would decide it once more. -/
theorem Concluded.decides_false {d : Decision} (h : σ.Concluded d)
    (htask : σ.tasks[d.task]? = some ⟨op, past, .ask q resume⟩) : q.decides = false := by
  obtain ⟨task, operation, answer, change⟩ := d
  obtain ⟨past', rest, htask', hrest⟩ := h
  rw [htask'] at htask
  cases htask
  cases hrest
  rfl

theorem Concluded.answer {d : Decision} (h : σ.Concluded d)
    (htask : σ.tasks[d.task]? = some ⟨op, past, .ask q resume⟩) :
    Concluded ⟨s', σ.tasks.set d.task ⟨op, past ++ [⟨q, a⟩], resume a⟩⟩ d := by
  obtain ⟨task, operation, answer, change⟩ := d
  obtain ⟨past', rest, htask', hrest⟩ := h
  rw [htask'] at htask
  cases htask
  exact ⟨_, _, List.getElem?_set_self (List.getElem?_eq_some_iff.mp htask').1, hrest.next a⟩

/-- **A query that does not decide its operation leaves the rows as they are.** -/
theorem Linear.carryOn (h : Linear s₀ ds σ) (htask : σ.tasks[i]? = some ⟨op, past, .ask q resume⟩)
    (hserved : Store.Served q σ.store a s') (hq : q.decides = false) :
    Linear s₀ ds ⟨s', σ.tasks.set i ⟨op, past ++ [⟨q, a⟩], resume a⟩⟩ where
  calm := h.calm.answer htask hserved
  undecided j t ht hj := by
    rcases getElem?_set_cases ht with ⟨rfl, rfl⟩ | ⟨-, ht⟩
    · obtain ⟨hpast, hrest⟩ := h.undecided i _ htask hj
      unfold DecidesLast at hrest
      rw [if_neg (ne_true_of_eq_false hq)] at hrest
      exact ⟨List.forall_mem_append.mpr ⟨hpast, List.forall_mem_singleton.mpr hq⟩, hrest a⟩
    · exact h.undecided j t ht hj
  concluded d hd := by
    by_cases hi : i = d.task
    · subst hi
      exact (h.concluded d hd).answer htask
    · exact (h.concluded d hd).others hi
  nodup := h.nodup
  sequential := by
    rw [hserved.tables hq]
    exact h.sequential
  decided := by
    rw [hserved.tables hq]
    exact h.decided

/-- An operation that can still decide was not decided yet. -/
theorem Linear.not_decided (h : Linear s₀ ds σ) (htask : σ.tasks[i]? = some ⟨op, past, .ask q resume⟩)
    (hq : q.decides = true) : i ∉ ds.map (·.task) := by
  intro hi
  obtain ⟨d, hd, rfl⟩ := List.mem_map.mp hi
  exact absurd hq (ne_true_of_eq_false ((h.concluded d hd).decides_false htask))

/-- **A query that decides its operation** is where the operation takes effect. -/
theorem Linear.exists_effect (h : Linear s₀ ds σ) (htask : σ.tasks[i]? = some ⟨op, past, .ask q resume⟩)
    (hserved : Store.Served q σ.store a s') (hq : q.decides = true) :
    ∃ v change, Concludes v (resume a) ∧ Store.Effect op v change σ.store s' := by
  have hmem := List.mem_of_getElem? htask
  have hrest := (h.undecided i _ htask (h.not_decided htask hq)).rest
  unfold DecidesLast at hrest
  rw [if_pos hq] at hrest
  obtain ⟨v, hv⟩ := hrest a
  obtain ⟨fs, hfs, hcounts, hsmooth⟩ := hv.exists_ends
  have hends : op.program.Ends (past ++ ⟨q, a⟩ :: fs) v := (h.calm.traced _ hmem).ends ⟨a, fs, rfl, hfs⟩
  have hes : ∀ x ∈ past ++ ⟨q, a⟩ :: fs, x.Smooth := List.forall_mem_append.mpr
    ⟨h.calm.smooth _ hmem, List.forall_mem_cons.mpr ⟨h.calm.smooth_answer htask hserved, hsmooth⟩⟩
  obtain ⟨change, heffect⟩ :=
    Store.exists_effect hends hes hcounts hq hserved h.calm.faults h.calm.owned (history_of_task htask)
  exact ⟨v, change, hv, heffect⟩

/-- **A decision is added** to those that were taken before. -/
theorem Linear.decide (h : Linear s₀ ds σ) (htask : σ.tasks[i]? = some ⟨op, past, .ask q resume⟩)
    (hserved : Store.Served q σ.store a s') (hq : q.decides = true) {v : Except StorageError op.Value}
    {change : Change} (hv : Concludes v (resume a)) (heffect : Store.Effect op v change σ.store s') :
    Linear s₀ (ds ++ [⟨i, op, v, change⟩]) ⟨s', σ.tasks.set i ⟨op, past ++ [⟨q, a⟩], resume a⟩⟩ where
  calm := h.calm.answer htask hserved
  undecided j t ht hj := by
    rw [List.map_append, List.mem_append, not_or] at hj
    rcases getElem?_set_cases ht with ⟨rfl, -⟩ | ⟨-, ht⟩
    · exact absurd (List.mem_singleton.mpr rfl) hj.2
    · exact h.undecided j t ht hj.1
  concluded := by
    have hi := h.not_decided htask hq
    have hset : (σ.tasks.set i ⟨op, past ++ [⟨q, a⟩], resume a⟩)[i]? = some ⟨op, past ++ [⟨q, a⟩], resume a⟩ :=
      List.getElem?_set_self (List.getElem?_eq_some_iff.mp htask).1
    refine List.forall_mem_append.mpr ⟨fun d hd => ?_, List.forall_mem_singleton.mpr ⟨_, _, hset, hv⟩⟩
    exact (h.concluded d hd).others fun heq => hi (heq ▸ List.mem_map_of_mem hd)
  nodup := by
    rw [List.map_append, List.map_singleton, ← List.concat_eq_append, List.nodup_concat]
    exact ⟨h.not_decided htask hq, h.nodup⟩
  sequential := by
    -- the sequential run goes on with this operation
    obtain ⟨s, hseq, hs, htables⟩ := h.sequential
    obtain ⟨es, v', s₁, hends, halong, hs₁, htables₁, hseen⟩ := heffect.replay s hs htables
    exact ⟨s₁, hseq.append ⟨es, v', s₁, hends, halong, hseen, rfl⟩, hs₁, htables₁⟩
  decided := decided_append.mpr ⟨_, h.decided, heffect.decides, heffect.tables⟩

end Answer

/-! ## Ids of their own -/

/-- Every id has been brought once, and what was brought will not be brought again. -/
structure Apart (s₀ : Store) (ds : List Decision) (s : Store) : Prop where
  unmixed : s.Unmixed
  fresh : Fresh s₀.tables.untimed ds
  spent : ∀ id, id ∈ s₀.tables.untimed.rowIds ∨ id ∈ broughtIds ds → s.Spent id

theorem Apart.init (hs : s₀.Unmixed) : Apart s₀ [] s₀ where
  unmixed := hs
  fresh := ⟨List.nodup_nil, fun _ h => absurd h List.not_mem_nil⟩
  spent id h := by
    rw [s₀.tables.untimed_rowIds] at h
    have hrow := h.resolve_right List.not_mem_nil
    exact ⟨hs.rows id hrow, fun tx hwaits => hs.unused tx id hwaits hrow⟩

variable {s : Store} {lost : Request → Prop} {c : CallRecord}

theorem Apart.made (h : Apart s₀ ds s) (hmade : Store.Made lost c s s') (hids : s'.issued ≤ Uuid.issueCount) :
    Apart s₀ ds s' :=
  ⟨hmade.unmixed h.unmixed hids, h.fresh, fun id hid => hmade.spent hids (h.spent id hid)⟩

/-- **What a transaction brings has ids of its own.** -/
theorem Apart.decide (h : Apart s₀ ds s) (hmade : Store.Made lost c s s')
    (hids : s'.issued ≤ Uuid.issueCount) {d : Decision}
    (hdrawn : d.change.newIds = [] ∨ ∃ tx, d.change.newIds = newIds (s.waiting tx) ∧ s'.waiting tx = []) :
    Apart s₀ (ds ++ [d]) s' := by
  have hbrought := broughtIds_concat ds d
  rcases hdrawn with hnone | ⟨tx, hdrawn, hempty⟩
  · rw [hnone, List.append_nil] at hbrought
    obtain ⟨hunmixed, ⟨hnodup, hunused⟩, hspent⟩ := h.made hmade hids
    exact ⟨hunmixed, ⟨hbrought ▸ hnodup, hbrought ▸ hunused⟩, hbrought ▸ hspent⟩
  · rw [hdrawn] at hbrought
    refine ⟨hmade.unmixed h.unmixed hids, ⟨?_, ?_⟩, ?_⟩
    · rw [hbrought, List.nodup_append]
      refine ⟨h.fresh.nodup, h.unmixed.nodup tx, ?_⟩
      rintro id hid _ hwaits rfl
      exact (h.spent id (.inr hid)).waits tx hwaits
    · intro id hid hrow
      rw [hbrought, List.mem_append] at hid
      rcases hid with hid | hwaits
      · exact h.fresh.unused id hid hrow
      · exact (h.spent id (.inl hrow)).waits tx hwaits
    · intro id hid
      rw [hbrought, List.mem_append, ← or_assoc] at hid
      rcases hid with hid | hwaits
      · exact hmade.spent hids (h.spent id hid)
      · exact hmade.spent_of_closed hids h.unmixed hempty hwaits

/-! ## Every run has its order -/

/-- A step is the serving of one call; where there is none, it is as if a row had been looked up. -/
theorem Advance.exists_made (h : Advance σ new σ') :
    ∃ c, Store.Made (fun _ => False) c σ.store σ'.store := by
  have hlook : ∀ s : Store, Store.Made (fun _ => False)
      ⟨.findFile (.issue 0), some (.ok (s.tables.file? (.issue 0)))⟩ s s := fun s => .inl ⟨rfl, rfl⟩
  cases h with
  | start op => exact ⟨_, hlook _⟩
  | @answer i op past q resume a s' htask hserved =>
    rcases @Store.Answers.made_cases (fun _ => False) (Exchange.mk q a) _ _ hserved.answers with
      ⟨-, rfl⟩ | ⟨c, -, hmade⟩
    · exact ⟨_, hlook _⟩
    · exact ⟨c, hmade⟩
  | fetch id => exact ⟨⟨.findChunk id, some (σ.store.serve (.findChunk id)).1⟩, .inl ⟨rfl, rfl⟩⟩

/-- **After every step** the operations that were decided so far can be had one after another. -/
theorem Linear.advance (h : Linear s₀ ds σ) (hstep : Advance σ new σ') :
    ∃ more, more.map (·.task) = new ∧ Linear s₀ (ds ++ more) σ' ∧
      (σ'.store.issued ≤ Uuid.issueCount → Apart s₀ ds σ.store → Apart s₀ (ds ++ more) σ'.store) := by
  obtain ⟨c, hmade⟩ := hstep.exists_made
  cases hstep with
  | start op =>
    refine ⟨[], rfl, ?_⟩
    rw [List.append_nil]
    exact ⟨h.start op, fun hids hapart => hapart⟩
  | @answer i op past q resume a s' htask hserved =>
    cases hq : q.decides with
    | false =>
      refine ⟨[], rfl, ?_⟩
      rw [List.append_nil]
      exact ⟨h.carryOn htask hserved hq, fun hids hapart => hapart.made hmade hids⟩
    | true =>
      obtain ⟨v, change, hv, heffect⟩ := h.exists_effect htask hserved hq
      refine ⟨_, rfl, h.decide htask hserved hq hv heffect, ?_⟩
      exact fun hids hapart => hapart.decide hmade hids heffect.drawn
  | fetch id =>
    refine ⟨[], rfl, ?_⟩
    rw [List.append_nil]
    exact ⟨h.fetch id, fun hids hapart => hapart.made hmade hids⟩

/-- **However many steps follow**, they add their decisions to those that were taken before. -/
theorem Linear.run (h : Linear s₀ ds σ) (hrun : Run σ order σ') :
    ∃ more, more.map (·.task) = order ∧ Linear s₀ (ds ++ more) σ' ∧
      (σ'.store.issued ≤ Uuid.issueCount → Apart s₀ ds σ.store → Apart s₀ (ds ++ more) σ'.store) := by
  -- along the steps; a store that has ids left at last has had them all along
  induction hrun with
  | refl =>
    refine ⟨[], rfl, ?_⟩
    rw [List.append_nil]
    exact ⟨h, fun _ hapart => hapart⟩
  | step _ hstep ih =>
    obtain ⟨more, rfl, hlinear, hapart⟩ := ih
    obtain ⟨last, rfl, hlinear', hapart'⟩ := hlinear.advance hstep
    obtain ⟨c, hmade⟩ := hstep.exists_made
    refine ⟨more ++ last, List.map_append, ?_⟩
    rw [← List.append_assoc]
    exact ⟨hlinear', fun hids hfirst => hapart' hids (hapart (Nat.le_trans hmade.frame.issued hids) hfirst)⟩

theorem Run.linear (h : Run ⟨s₀, []⟩ order σ) (hs : s₀.faults = .none) :
    ∃ ds, ds.map (·.task) = order ∧ Linear s₀ ds σ ∧
      (s₀.Unmixed → σ.store.issued ≤ Uuid.issueCount → Apart s₀ ds σ.store) := by
  obtain ⟨ds, hds, hlinear, hapart⟩ := (Linear.init hs).run h
  exact ⟨ds, hds, hlinear, fun hunmixed hids => hapart hids (.init hunmixed)⟩

/-- **An operation that has ended was decided.** -/
theorem Linear.decided_of_done (h : Linear s₀ ds σ) {i : Nat} {op : Operation} {past : List Exchange}
    {r : Except StorageError op.Value} (htask : σ.tasks[i]? = some ⟨op, past, .done r⟩) :
    i ∈ ds.map (·.task) := by
  by_contra hi
  have hmem := List.mem_of_getElem? htask
  have hends : op.program.Ends (past ++ []) r := (h.calm.traced _ hmem).ends ⟨rfl, rfl⟩
  rw [List.append_nil] at hends
  obtain ⟨x, hx, hdecides⟩ := Operation.exists_decides hends (h.calm.smooth _ hmem)
  rw [(h.undecided i _ htask hi).past x hx] at hdecides
  cases hdecides

/-- **Every run is linearizable.** The operations that were decided so far, in the order of the calls that
have decided them and each with the store to itself, answer what they answer here and lead to the rows that
are here, stamps aside; all operations that have ended are among them. What each of them answers and does is
what it answers and does if it does all at once. If no id is issued twice, nothing that was acknowledged is
lost. -/
theorem Run.linearizable (h : Run ⟨s₀, []⟩ order σ) (hs : s₀.faults = .none) :
    order.Nodup ∧ ∃ ds s, ds.map (·.task) = order ∧ s₀.Sequential ds s ∧
      s.tables.untimed = σ.store.tables.untimed ∧ (∀ d ∈ ds, σ.Concluded d) ∧
      (∀ (i : Nat) (op : Operation) (past : List Exchange) (r : Except StorageError op.Value),
        σ.tasks[i]? = some ⟨op, past, .done r⟩ → i ∈ order) ∧
      Decided s₀.tables.untimed ds σ.store.tables.untimed ∧
      (s₀.Unmixed → σ.store.issued ≤ Uuid.issueCount → Acknowledged ds σ.store.tables.untimed) := by
  obtain ⟨ds, rfl, hlinear, hapart⟩ := h.linear hs
  obtain ⟨s, hseq, -, htables⟩ := hlinear.sequential
  refine ⟨hlinear.nodup, ds, s, rfl, hseq, htables, hlinear.concluded, ?_, hlinear.decided, ?_⟩
  · exact fun i op past r htask => hlinear.decided_of_done htask
  · exact fun hunmixed hids => hlinear.decided.acknowledged (hapart hunmixed hids).fresh

/-- A file is deleted while it is still being saved, and opened in between. The delete is decided last, so
the file was there to be opened, and is gone in the end. -/
theorem Run.linearizable_delete_under_way :
    ∃ σ ds s, Run ⟨.empty, []⟩ [0, 2, 1] σ ∧ σ.store.tables.files = [] ∧ ds.map (·.task) = [0, 2, 1] ∧
      Store.empty.Sequential ds s ∧ s.tables.untimed = σ.store.tables.untimed ∧
      Acknowledged ds σ.store.tables.untimed := by
  have h : Run ⟨.empty, []⟩ [] ⟨.empty, []⟩ := .refl
  replace h := h.step (.start _ (.save .own [.bytes [97]]))
  replace h := h.step (.start _ (.delete (.issue 0)))
  replace h := h.step (.start _ (.open .own (.issue 0)))
  -- the transaction of the save, its file, its source and its chunk
  replace h := h.step (.answer (i := 0) rfl ⟨rfl, rfl⟩)
  replace h := h.step (.answer (i := 0) rfl ⟨rfl, rfl⟩)
  replace h := h.step (.answer (i := 0) rfl ⟨rfl, rfl⟩)
  replace h := h.step (.answer (i := 0) rfl ⟨rfl, rfl⟩)
  -- the transaction of the delete, and the removal of the chunks
  replace h := h.step (.answer (i := 1) rfl ⟨rfl, rfl⟩)
  replace h := h.step (.answer (i := 1) rfl ⟨rfl, rfl⟩)
  -- the size of the file, the last look at the token and the commit of the save
  replace h := h.step (.answer (i := 0) rfl ⟨rfl, rfl⟩)
  replace h := h.step (.answer (i := 0) rfl ⟨rfl, rfl⟩)
  replace h := h.step (.answer (i := 0) rfl ⟨rfl, rfl⟩)
  -- the removal of the file, the look-up, and the commit of the delete
  replace h := h.step (.answer (i := 1) rfl ⟨rfl, rfl⟩)
  replace h := h.step (.answer (i := 2) rfl ⟨rfl, rfl⟩)
  replace h := h.step (.answer (i := 1) rfl ⟨rfl, rfl⟩)
  have hids : ∀ {σ : System}, σ.store.issued = 2 → σ.store.issued ≤ Uuid.issueCount := fun h => by
    rw [h]
    decide
  obtain ⟨-, ds, s, hds, hseq, htables, -, -, -, hkept⟩ := Run.linearizable h rfl
  exact ⟨_, ds, s, h, rfl, hds, hseq, htables, hkept Store.Agrees.empty.unmixed (hids rfl)⟩

end System
end ChunkVault.Memory
