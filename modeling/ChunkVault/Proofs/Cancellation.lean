/-
# ChunkVault.Proofs.Cancellation -- a token undoes a save until its commit, and not from then on

A call that is raced against a token is polled. Each poll looks at the token first, and goes on with the
call only if the token has not fired (`Race.await`). `Heeds` follows one token through the exchanges of an
operation: it may fire at any time, within a call or a read as well as between them, and stays fired.

`save_heeds_token` is about a run that is cut anywhere, with the token fired from the cut on. If the save
has not had its last look at the token by then, nothing is committed, and after the cut nothing is called
but a rollback. What it answers then is said by `CutShort`, and by nothing else (`CutShort.unique`): a
cancellation where the token was found to have fired before anything had failed, and otherwise the error of the
call or of the read that failed, as it is reported (`Trouble.Reported`). If it has, the token makes no difference any
more, and the commit decides.
-/
import ChunkVault.Proofs.Reporting

namespace ChunkVault

open Program

/-! ## Polls -/

/-- One poll of a call that is raced against a token. -/
structure Poll (α : Type) where
  /-- The token has fired when the poll looks at it. -/
  fired : Bool
  /-- How the call ends if the poll goes on with it; nothing if it is not ready. -/
  ready : Option α

/-- What a race comes to, poll by poll. -/
def Race.await {α : Type} (begun : Bool) : List (Poll α) → Option (Race α)
  | [] => none
  | poll :: polls =>
    if poll.fired then some (if begun then .abandoned else .refused)
    else
      match poll.ready with
      | some v => some (.finished v)
      | none => await true polls

/-- The token is one of these. -/
def Token.IsAmong (token : Token) (names : List String) : Prop := ∃ name ∈ names, token = .shared name

/-- The answer goes with a token that has fired before the query or not, and after it or not. -/
def Heeds (token : Token) : (q : Query) → Bool → q.Answer → Bool → Prop
  | .race t q, before, race, after => before ≤ after ∧ (t = token → ∃ polls : List (Poll q.Outcome),
      (before :: polls.map (·.fired) ++ [after]).Pairwise (· ≤ ·) ∧ Race.await false polls = some race)
  | .fired t, before, answer, after => before ≤ after ∧ (t = token → before ≤ answer ∧ answer ≤ after)
  | .wait t, before, _, after => before ≤ after ∧ (t = token → after = true)
  | .fire names, before, _, after => before ≤ after ∧ (token.IsAmong names → after = true)
  | .call _, before, _, after | .count .., before, _, after => before ≤ after

/-- The exchange has found the token fired, if it has looked at it. -/
def Exchange.Refused (token : Token) : Exchange → Prop
  | ⟨.race t _, race⟩ => t = token → race = .refused
  | ⟨.fired t, answer⟩ => t = token → answer = true
  | ⟨.call _, _⟩ | ⟨.wait _, _⟩ | ⟨.fire _, _⟩ | ⟨.count .., _⟩ => True

/-- The exchange has found that the token fired: before a call or during it, by a look, or by a wait for it. -/
def Exchange.FindsFired (token : Token) : Exchange → Prop
  | ⟨.race t _, .refused⟩ | ⟨.race t _, .abandoned⟩ => t = token
  | ⟨.race _ _, .finished _⟩ => False
  | ⟨.fired t, answer⟩ => t = token ∧ answer = true
  | ⟨.wait t, _⟩ => t = token
  | ⟨.call _, _⟩ | ⟨.fire _, _⟩ | ⟨.count .., _⟩ => False

namespace Heeds

variable {token t : Token} {q : Request} {before after : Bool}

/-- A race is refused if the token has fired by the first poll. -/
theorem of_refused (hle : before ≤ after) (h : t = token → after = true) :
    Heeds token (.race t q) before .refused after := by
  refine ⟨hle, fun ht => ⟨[⟨true, none⟩], ?_, rfl⟩⟩
  rw [h ht]
  simp

/-- It is given up if the token fires between two polls. -/
theorem of_abandoned (hle : before ≤ after) (h : t = token → before = false ∧ after = true) :
    Heeds token (.race t q) before .abandoned after := by
  refine ⟨hle, fun ht => ⟨[⟨false, none⟩, ⟨true, none⟩], ?_, rfl⟩⟩
  rw [(h ht).1, (h ht).2]
  simp

/-- It comes to its end if the token has not fired by the last poll, whatever that poll does to the token. -/
theorem of_finished (hle : before ≤ after) (h : t = token → before = false) (o : q.Outcome) :
    Heeds token (.race t q) before (.finished o) after := by
  refine ⟨hle, fun ht => ⟨[⟨false, some o⟩], ?_, rfl⟩⟩
  rw [h ht]
  simp

end Heeds

/-- A race that begins after the token has fired is refused. -/
theorem Race.await_of_fired {α : Type} {polls : List (Poll α)} {after : Bool} {race : Race α}
    (h : (true :: polls.map (·.fired) ++ [after]).Pairwise (· ≤ ·))
    (hrace : Race.await false polls = some race) : race = .refused := by
  cases polls with
  | nil => cases hrace
  | cons poll polls =>
    have hpoll : poll.fired = true :=
      Bool.eq_true_of_true_le (List.rel_of_pairwise_cons h List.mem_cons_self)
    rw [await, if_pos hpoll] at hrace
    exact (Option.some.inj hrace).symm

/-- **A token that has fired stays fired**, and whatever looks at it finds it so. -/
theorem Heeds.refused {token : Token} {q : Query} {answer : q.Answer} {after : Bool}
    (h : Heeds token q true answer after) : Exchange.Refused token ⟨q, answer⟩ ∧ after = true := by
  cases q with
  | call q => exact ⟨trivial, h rfl⟩
  | race t q =>
    refine ⟨fun ht => ?_, h.1 rfl⟩
    obtain ⟨polls, hpolls, hrace⟩ := h.2 ht
    exact Race.await_of_fired hpolls hrace
  | fired t => exact ⟨fun ht => (h.2 ht).1 rfl, h.1 rfl⟩
  | wait t => exact ⟨trivial, h.1 rfl⟩
  | fire names => exact ⟨trivial, h.1 rfl⟩
  | count method failed => exact ⟨trivial, h rfl⟩

/-- Everything refuses in a run that begins after the token has fired. -/
theorem refused_of_fired {token : Token} {es : List Exchange} {after : Bool}
    (h : Along (Heeds token) true es after) : ∀ x ∈ es, x.Refused token := by
  generalize hbefore : true = before at h
  induction h with
  | nil => exact fun x hx => absurd hx List.not_mem_nil
  | @cons q a before next after es hheeds _ ih =>
    subst hbefore
    obtain ⟨hrefused, rfl⟩ := hheeds.refused
    intro x hx
    rcases List.mem_cons.mp hx with rfl | hx
    · exact hrefused
    · exact ih rfl x hx

/-! ## What is left to do after the token has fired -/

section Fired

variable {token : Token} {x : Exchange} {e : StorageError} {es : List Exchange}

/-- What passes although the token has fired is neither a call nor a look at the token. -/
theorem Exchange.Passes.of_refused (h : x.Passes token) (hx : x.Refused token) :
    x.call? = none ∧ ¬x.LooksAt token := by
  obtain ⟨q, answer⟩ := x
  cases q with
  | call q => exact absurd h not_false
  | race t q =>
    obtain ⟨rfl, v, rfl⟩ := h
    cases hx rfl
  | fired t =>
    obtain ⟨rfl, rfl⟩ := h
    cases hx rfl
  | wait t => exact absurd h not_false
  | fire names => exact ⟨rfl, not_false⟩
  | count method failed => exact absurd h not_false

/-- What stops a save because the token has fired is no call, and the error is a cancellation. -/
theorem Exchange.Stops.of_refused (h : x.Stops token e) (hx : x.Refused token) :
    x.call? = none ∧ e = .cancelled := by
  obtain ⟨q, answer⟩ := x
  cases q with
  | call q => exact absurd h not_false
  | race t q =>
    obtain ⟨rfl, ho⟩ := h
    obtain rfl := hx rfl
    exact ⟨rfl, (Except.error.inj ho).symm⟩
  | fired t => exact ⟨rfl, h.2.2⟩
  | wait t => exact ⟨rfl, h.2⟩
  | fire names => exact absurd h not_false
  | count method failed => exact absurd h not_false

theorem calls_of_refused (h : ∀ x ∈ es, x.Passes token) (hes : ∀ x ∈ es, x.Refused token) :
    calls es = [] ∧ ∀ x ∈ es, ¬x.LooksAt token := by
  refine ⟨?_, fun x hx => ((h x hx).of_refused (hes x hx)).2⟩
  exact List.filterMap_eq_nil_iff.mpr fun x hx => ((h x hx).of_refused (hes x hx)).1

/-- What stops a save is a call that failed, or the token. -/
theorem Exchange.Stops.cases (h : x.Stops token e) :
    (∃ q, x = ⟨.race token q, .finished (.error e)⟩) ∨ e = .cancelled ∧ x.FindsFired token := by
  obtain ⟨q, answer⟩ := x
  cases q with
  | call q => exact absurd h not_false
  | race t q =>
    obtain ⟨rfl, ho⟩ := h
    cases answer with
    | refused => exact .inr ⟨(Except.error.inj ho).symm, rfl⟩
    | abandoned => exact .inr ⟨(Except.error.inj ho).symm, rfl⟩
    | finished o =>
      obtain rfl : o = .error e := ho
      exact .inl ⟨q, rfl⟩
  | fired t => exact .inr ⟨h.2.2, h.1, h.2.1⟩
  | wait t => exact .inr ⟨h.2, h.1⟩
  | fire names => exact absurd h not_false
  | count method failed => exact absurd h not_false

end Fired

/-! ## A save and its token -/

/-- What a save answers that was not through when its token fired: `es₁` came before, `es₂` comes after. What comes
first in the run that is in the way of the save decides. -/
inductive CutShort (token : Token) (source : Source) (es₁ es₂ : List Exchange) : Except StorageError Uuid → Prop
  /-- The token was found to have fired, and neither a call nor a read of the source had failed before. -/
  | cancelled {front tail : List Exchange} {x : Exchange} (hes : es₁ ++ es₂ = front ++ x :: tail)
      (hpass : ∀ y ∈ front, y.Passes token) (hunfailed : ∀ err, ¬source.FailedBy front err)
      (hfound : x.FindsFired token) : CutShort token source es₁ es₂ (.error .cancelled)
  /-- A call had failed, at the latest while the token fired. -/
  | failed {front tail : List Exchange} {q : Request} {e reported : StorageError}
      (hes : es₁ = front ++ ⟨.race token q, .finished (.error e)⟩ :: tail)
      (hpass : ∀ y ∈ front, y.Passes token) (hunfailed : ∀ err, ¬source.FailedBy front err)
      (hreported : (Trouble.call q e).Reported "save" reported) : CutShort token source es₁ es₂ (.error reported)
  /-- A read of the source had failed, at the latest in the poll in which the token fired. Neither a call nor the
  token was in the way before, and the token was not looked at any more. -/
  | faulted {front tail : List Exchange} {err : IoError} (hes : es₁ ++ es₂ = front ++ tail)
      (hpass : ∀ y ∈ front, y.Passes token) (hfailed : source.FailedBy front err)
      (htail : ∀ x ∈ tail, ¬x.LooksAt token) (hpoll : ∀ x ∈ es₂, ¬x.LooksAt token) :
      CutShort token source es₁ es₂ (.error (.unknown "file read" [err.message]))

/-- How a commit ends, and what the caller learns of it. -/
inductive Settles (file : Uuid) : Except StorageError Unit → Except StorageError Uuid → Prop
  | ok : Settles file (.ok ()) (.ok file)
  | cancelled : Settles file (.error .cancelled) (.error .cancelled)
  | failed {e : StorageError} (context : String) (causes : List String) (he : e ≠ .cancelled) :
      Settles file (.error e) (.error (.unknown context causes))

theorem settles_settled (file : Uuid) (o : Except StorageError Unit) : Settles file o (settled file o) := by
  cases o with
  | ok u => exact .ok
  | error e =>
    cases e with
    | cancelled => exact .cancelled
    | _ => exact .failed _ _ nofun

theorem cancelled_of_settled {file : Uuid} {o : Except StorageError Unit}
    (h : settled file o = .error .cancelled) : o = .error .cancelled := by
  have hsettles := settles_settled file o
  rw [h] at hsettles
  cases hsettles
  rfl

variable {token : Token} {source : Source} {es₁ es₂ : List Exchange} {r : Except StorageError Uuid}

/-- The calls at the end of a run, as far as they come after a cut. -/
theorem Closing.rollback_right {tail₁ tail₂ : List Exchange} (h : Closing token (tail₁ ++ tail₂)) :
    OnlyRollsBack tail₂ := by
  have hcalls := h.rollback
  rw [OnlyRollsBack, calls_append] at hcalls
  rcases hcalls with hnil | ⟨tx, o, hone⟩
  · exact .inl (List.append_eq_nil_iff.mp hnil).2
  · rcases List.append_eq_singleton_iff.mp hone with ⟨-, h₂⟩ | ⟨-, h₂⟩
    · exact .inr ⟨tx, o, h₂⟩
    · exact .inl h₂

/-- A run that is cut is cut before one of its exchanges or after it. -/
theorem cut_before_or_after {front tail : List Exchange} {x : Exchange} (h : es₁ ++ es₂ = front ++ x :: tail) :
    (∃ mid, front = es₁ ++ mid ∧ es₂ = mid ++ x :: tail) ∨ ∃ mid, es₁ = front ++ x :: mid ∧ tail = mid ++ es₂ := by
  rcases List.append_eq_append_iff.mp h with hbefore | ⟨mid, rfl, hmid⟩
  · exact .inl hbefore
  · cases mid with
    | nil => exact .inl ⟨[], by rw [List.append_nil, List.append_nil], hmid.symm⟩
    | cons y mid =>
      obtain ⟨rfl, htail⟩ := List.cons.inj hmid
      exact .inr ⟨mid, rfl, htail⟩

/-- **A save that something stops**, cut anywhere: after the cut there is at most the rollback. -/
theorem cutShort_of_stopped {front tail : List Exchange} {x : Exchange} {e : StorageError} {context : String}
    (hes : es₁ ++ es₂ = front ++ x :: tail) (hpass : ∀ y ∈ front, y.Passes token)
    (hunfailed : ∀ err, ¬source.FailedBy front err) (hstops : x.Stops token e)
    (hcontext : ∀ (q : Request) (o : q.Outcome), x = ⟨.race token q, .finished o⟩ → context = q.stage "save")
    (htail : Closing token tail) (hrefused : ∀ y ∈ es₂, y.Refused token) :
    OnlyRollsBack es₂ ∧ CutShort token source es₁ es₂ (.error (e.intoUnknown context)) := by
  rcases cut_before_or_after hes with ⟨mid, rfl, rfl⟩ | ⟨mid, rfl, rfl⟩
  · -- the cut comes before what stops the save, which is therefore no call
    obtain ⟨hcalls, -⟩ := calls_of_refused (fun y hy => hpass y (List.mem_append_right _ hy)) fun y hy =>
      hrefused y (List.mem_append_left _ hy)
    obtain ⟨hx, rfl⟩ := hstops.of_refused (hrefused x (List.mem_append_right _ List.mem_cons_self))
    refine ⟨?_, ?_⟩
    · rw [OnlyRollsBack, calls_append, hcalls, calls_cons, hx]
      exact htail.rollback
    · rcases hstops.cases with ⟨q, rfl⟩ | ⟨-, hfound⟩
      · cases hx
      · exact .cancelled hes hpass hunfailed hfound
  · -- the cut comes after it, and nothing is left but the end
    refine ⟨htail.rollback_right, ?_⟩
    rcases hstops.cases with ⟨q, rfl⟩ | ⟨rfl, hfound⟩
    · rw [hcontext q _ rfl]
      exact .failed rfl hpass hunfailed (reported_intoUnknown "save" q e)
    · exact .cancelled hes hpass hunfailed hfound

/-- **A save whose source fails it**, cut anywhere. -/
theorem cutShort_of_faulted {front tail : List Exchange} {err : IoError}
    (hes : es₁ ++ es₂ = front ++ tail) (hpass : ∀ y ∈ front, y.Passes token)
    (hfailed : source.FailedBy front err) (htail : Closing token tail)
    (hrefused : ∀ y ∈ es₂, y.Refused token) :
    OnlyRollsBack es₂ ∧ CutShort token source es₁ es₂ (.error (.unknown "file read" [err.message])) := by
  have hafter : OnlyRollsBack es₂ ∧ ∀ x ∈ es₂, ¬x.LooksAt token := by
    rcases List.append_eq_append_iff.mp hes with ⟨mid, rfl, rfl⟩ | ⟨mid, rfl, rfl⟩
    · -- the token fires in the poll in which the source fails
      obtain ⟨hcalls, hmid⟩ := calls_of_refused (fun y hy => hpass y (List.mem_append_right _ hy)) fun y hy =>
        hrefused y (List.mem_append_left _ hy)
      refine ⟨?_, fun x hx => (List.mem_append.mp hx).elim (hmid x) (htail.unlooking x)⟩
      rw [OnlyRollsBack, calls_append, hcalls]
      exact htail.rollback
    · exact ⟨htail.rollback_right, fun x hx => htail.unlooking x (List.mem_append_right _ hx)⟩
  exact ⟨hafter.1, .faulted hes hpass hfailed htail.unlooking hafter.2⟩

/-! ### One answer only -/

theorem Exchange.FindsFired.looksAt {x : Exchange} (h : x.FindsFired token) : x.LooksAt token := by
  obtain ⟨q, answer⟩ := x
  cases q with
  | race t q =>
    cases answer with
    | finished o => exact h.elim
    | _ => exact h
  | fired t => exact h.1
  | wait t => exact h
  | _ => exact h.elim

theorem Exchange.FindsFired.not_passes {x : Exchange} (h : x.FindsFired token) : ¬x.Passes token := by
  obtain ⟨q, answer⟩ := x
  cases q with
  | race t q =>
    rintro ⟨-, v, rfl⟩
    exact h
  | fired t => exact fun hpass => nomatch h.2.symm.trans hpass.2
  | wait t => exact not_false
  | _ => exact h.elim

theorem not_passes_of_error {q : Request} {e : StorageError} :
    ¬Exchange.Passes token ⟨.race token q, .finished (.error e)⟩ := by
  rintro ⟨-, v, hv⟩
  cases hv

/-- The first exchange of a run that does not pass is one only. -/
theorem first_unique {front front' tail tail' : List Exchange} {x x' : Exchange}
    (h : front ++ x :: tail = front' ++ x' :: tail') (hpass : ∀ y ∈ front, y.Passes token)
    (hpass' : ∀ y ∈ front', y.Passes token) (hx : ¬x.Passes token) (hx' : ¬x'.Passes token) : x = x' := by
  rcases cut_before_or_after h with ⟨mid, rfl, hmid⟩ | ⟨mid, rfl, -⟩
  · cases mid with
    | nil => exact (List.cons.inj hmid).1
    | cons y mid =>
      obtain ⟨rfl, -⟩ := List.cons.inj hmid
      exact absurd (hpass' x (List.mem_append_right _ List.mem_cons_self)) hx
  · exact absurd (hpass x' (List.mem_append_right _ List.mem_cons_self)) hx'

/-- A token that was found to have fired is not a call that failed. -/
theorem not_found_and_failed {front front' tail tail' : List Exchange} {x : Exchange} {q : Request} {e : StorageError}
    (hes : es₁ ++ es₂ = front ++ x :: tail) (hpass : ∀ y ∈ front, y.Passes token) (hfound : x.FindsFired token)
    (hes' : es₁ ++ es₂ = front' ++ ⟨.race token q, .finished (.error e)⟩ :: tail')
    (hpass' : ∀ y ∈ front', y.Passes token) : False := by
  rw [first_unique (hes ▸ hes') hpass hpass' hfound.not_passes not_passes_of_error] at hfound
  exact hfound

/-- A save whose source failed it has found nothing in its way. -/
theorem not_stopped_and_faulted {front front' tail tail' : List Exchange} {x : Exchange}
    (hes : es₁ ++ es₂ = front ++ x :: tail) (hlooks : x.LooksAt token) (hx : ¬x.Passes token)
    (hes' : es₁ ++ es₂ = front' ++ tail') (hpass' : ∀ y ∈ front', y.Passes token)
    (htail' : ∀ y ∈ tail', ¬y.LooksAt token) : False := by
  have hmem : x ∈ front' ++ tail' := hes' ▸ hes ▸ List.mem_append_right _ List.mem_cons_self
  rcases List.mem_append.mp hmem with hfront | htail
  · exact hx (hpass' x hfront)
  · exact htail' x htail hlooks

/-- **A save that is cut short has one answer**, which is settled by its run. -/
theorem CutShort.unique {r' : Except StorageError Uuid} (h : CutShort token source es₁ es₂ r)
    (h' : CutShort token source es₁ es₂ r') : r = r' := by
  -- a call that failed before the cut is a part of the whole run
  have hwhole {front tail : List Exchange} {x : Exchange} (hes : es₁ = front ++ x :: tail) :
      es₁ ++ es₂ = front ++ x :: (tail ++ es₂) := by
    rw [hes, List.append_assoc, List.cons_append]
  -- what came first in the way of the save: an exchange of the one kind or of the other, or none at all
  cases h with
  | cancelled hes hpass _ hfound =>
    cases h' with
    | cancelled => rfl
    | failed hes' hpass' _ _ => exact (not_found_and_failed hes hpass hfound (hwhole hes') hpass').elim
    | faulted hes' hpass' _ htail' _ =>
      exact (not_stopped_and_faulted hes hfound.looksAt hfound.not_passes hes' hpass' htail').elim
  | failed hes hpass _ hreported =>
    cases h' with
    | cancelled hes' hpass' _ hfound' => exact (not_found_and_failed hes' hpass' hfound' (hwhole hes) hpass).elim
    | failed hes' hpass' _ hreported' =>
      cases first_unique (hes ▸ hes') hpass hpass' not_passes_of_error not_passes_of_error
      exact congrArg Except.error (hreported.unique hreported')
    | faulted hes' hpass' _ htail' _ =>
      exact (not_stopped_and_faulted (hwhole hes) rfl not_passes_of_error hes' hpass' htail').elim
  | faulted hes hpass hfailed htail _ =>
    cases h' with
    | cancelled hes' _ _ hfound' =>
      exact (not_stopped_and_faulted hes' hfound'.looksAt hfound'.not_passes hes hpass htail).elim
    | failed hes' _ _ _ =>
      exact (not_stopped_and_faulted (hwhole hes') rfl not_passes_of_error hes hpass htail).elim
    | faulted _ _ hfailed' _ _ =>
      obtain rfl := SourceEnd.failed.inj (hfailed.1.symm.trans hfailed'.1)
      rfl

/-- A token that does not fire is heeded by a run that does not look at it. -/
theorem along_unfired {es : List Exchange} (h : ∀ x ∈ es, Heeds token x.query false x.answer false) :
    Along (Heeds token) false es false := by
  induction es with
  | nil => exact .nil false
  | cons x es ih =>
    exact .cons (h x List.mem_cons_self) (ih fun y hy => h y (List.mem_cons_of_mem _ hy))

/-- **A save and its token.** The run is cut anywhere, and the token has fired by the cut. If the save has not
had its last look at the token by then, it commits nothing, calls nothing more but a rollback, and fails with a
cancellation unless a call or a read of the source had failed before; no other answer goes with such a run. If it
has, nothing looks at the token any more, and the commit is awaited and decides. In any case a save that answers
with a cancellation has committed nothing, unless the commit itself says so. -/
theorem save_heeds_token {after : Bool} (hrun : (Storage.save token source).Ends (es₁ ++ es₂) r)
    (hfired : Along (Heeds token) true es₂ after) :
    (¬PastCheck token es₁ →
      (∀ c ∈ calls (es₁ ++ es₂), ∀ tx, c.request ≠ .commit tx) ∧ OnlyRollsBack es₂ ∧
        CutShort token source es₁ es₂ r ∧ ∀ r', CutShort token source es₁ es₂ r' → r' = r) ∧
    (PastCheck token es₁ →
      ∃ l tx file o, calls (es₁ ++ es₂) = l ++ [⟨.commit tx, some o⟩] ∧ .ok (.insertFile tx) file ∈ l ∧
        Settles file o r ∧ (∀ x ∈ es₂, ¬x.LooksAt token) ∧ Along (Heeds token) false es₂ false) ∧
    (r = .error .cancelled →
      ∀ tx o, (⟨.commit tx, some o⟩ : CallRecord) ∈ calls (es₁ ++ es₂) → o = .error .cancelled) := by
  have hrefused := refused_of_fired hfired
  cases save_stops hrun with
  | stopped hes hpass hunfailed hstops hcontext htail hnone =>
    obtain ⟨hcalls, hcut⟩ := cutShort_of_stopped hes hpass hunfailed hstops hcontext htail hrefused
    refine ⟨fun _ => ⟨hnone.commit, hcalls, hcut, fun _ h => h.unique hcut⟩,
      fun h => absurd (h.append es₂) hnone.unchecked, ?_⟩
    exact fun _ tx o hmem => absurd rfl (hnone.commit _ hmem tx)
  | faulted hes hpass hfailed htail hnone =>
    obtain ⟨hcalls, hcut⟩ := cutShort_of_faulted hes hpass hfailed htail hrefused
    refine ⟨fun _ => ⟨hnone.commit, hcalls, hcut, fun _ h => h.unique hcut⟩,
      fun h => absurd (h.append es₂) hnone.unchecked, ?_⟩
    exact fun _ tx o hmem => absurd rfl (hnone.commit _ hmem tx)
  | @settled front tx file o failed hes hpass hfinished hfile =>
    rcases cut_before_or_after hes with ⟨mid, rfl, rfl⟩ | ⟨mid, rfl, htail⟩
    · -- no look at the token after the cut can have found it unfired
      cases hrefused _ (List.mem_append_right mid List.mem_cons_self) rfl
    · have hpast : PastCheck token (front ++ ⟨.fired token, false⟩ :: mid) := ⟨front, mid, rfl, hfinished⟩
      have hafter : ∀ x ∈ es₂, ¬x.LooksAt token ∧ Heeds token x.query false x.answer false := by
        intro x hx
        have hx : x ∈ [(⟨.call (.commit tx), o⟩ : Exchange), ⟨.count .save failed, ()⟩] :=
          htail ▸ List.mem_append_right mid hx
        rcases List.mem_cons.mp hx with rfl | hx
        · exact ⟨not_false, Bool.le_refl false⟩
        · rw [List.mem_singleton.mp hx]
          exact ⟨not_false, Bool.le_refl false⟩
      have hcalls : calls ((front ++ ⟨.fired token, false⟩ :: mid) ++ es₂) =
          calls front ++ [⟨.commit tx, some o⟩] := by
        rw [hes, calls_append]
        rfl
      have htransacted := save_transacted hrun
      rw [hcalls] at htransacted
      refine ⟨fun h => absurd hpast h, fun _ => ?_, fun hr tx' o' hmem => ?_⟩
      · exact ⟨calls front, tx, file, o, hcalls, hfile, settles_settled file o, fun x hx => (hafter x hx).1,
          along_unfired fun x hx => (hafter x hx).2⟩
      · rw [hcalls] at hmem
        rcases List.mem_append.mp hmem with hmem | hmem
        · cases htransacted.publishes_front (List.cons_ne_nil _ _) hmem
        · cases List.mem_singleton.mp hmem
          exact cancelled_of_settled hr

/-- A save of one byte whose token fires while the chunk is inserted: the insert is given up, the transaction
is rolled back, and the answer is a cancellation. A save whose source fires the token and fails in the same poll:
the answer is the failure. -/
theorem save_heeds_token_one_byte :
    let token : Token := .shared "t"
    let begun : List Exchange := [⟨.race token .begin, .finished (.ok 0)⟩,
      ⟨.race token (.insertFile 0), .finished (.ok (.ofNat 1))⟩, ⟨.fired token, false⟩]
    let abandoned := begun ++ [⟨.race token (.insertChunk 0 (.ofNat 1) [97]), .abandoned⟩]
    let broken := begun ++ [⟨.fire ["t"], ()⟩]
    let rest : List Exchange := [⟨.call (.rollback 0), .ok ()⟩, ⟨.count .save true, ()⟩]
    let failure : Except StorageError Uuid := .error (.unknown "file read" ["disk"])
    (Along (Heeds token) true rest true ∧ Along (Heeds token) false abandoned true ∧
      Along (Heeds token) false broken true) ∧
    ((Storage.save token [.bytes [97]]).Ends (abandoned ++ rest) (.error .cancelled) ∧
      CutShort token [.bytes [97]] abandoned rest (.error .cancelled)) ∧
    (Storage.save token [.cancel "t", .fail ⟨.other, "disk"⟩]).Ends (broken ++ rest) failure ∧
      CutShort token [.cancel "t", .fail ⟨.other, "disk"⟩] broken rest failure := by
  intro token begun abandoned broken rest failure
  have hready : ∀ (q : Request) (o : q.Outcome), Heeds token (.race token q) false (.finished o) false :=
    fun q o => .of_finished id (fun _ => rfl) o
  have habandons : Along (Heeds token) false abandoned true :=
    .cons (hready _ _) (.cons (hready _ _) (.cons ⟨id, fun _ => ⟨id, id⟩⟩
      (.cons (.of_abandoned nofun fun _ => ⟨rfl, rfl⟩) (.nil true))))
  have hbreaks : Along (Heeds token) false broken true :=
    .cons (hready _ _) (.cons (hready _ _) (.cons ⟨id, fun _ => ⟨id, id⟩⟩ (.cons ⟨nofun, fun _ => rfl⟩ (.nil true))))
  have hfired : Along (Heeds token) true rest true :=
    .cons (fun h => h) (.cons (fun h => h) (.nil true))
  have hunchecked : ∀ es : List Exchange, (∀ c ∈ calls es, c.request.kind ≠ .finishFile) → ¬PastCheck token es := by
    intro es hkinds
    rw [← List.append_nil es]
    exact not_pastCheck (fun ⟨_, _, _, _, hmem⟩ => hkinds _ hmem rfl) List.not_mem_nil
  have hcancelled : (Storage.save token [.bytes [97]]).Ends (abandoned ++ rest) (.error .cancelled) :=
    ⟨_, _, rfl, ⟨_, _, rfl, ⟨_, _, rfl, ⟨_, _, rfl, ⟨_, _, rfl, ⟨_, _, rfl, ⟨rfl, rfl⟩⟩⟩⟩⟩⟩⟩
  have hfailed : (Storage.save token [.cancel "t", .fail ⟨.other, "disk"⟩]).Ends (broken ++ rest) failure :=
    ⟨_, _, rfl, ⟨_, _, rfl, ⟨_, _, rfl, ⟨_, _, rfl, ⟨_, _, rfl, ⟨_, _, rfl, ⟨rfl, rfl⟩⟩⟩⟩⟩⟩⟩
  exact ⟨⟨hfired, habandons, hbreaks⟩,
    ⟨hcancelled, ((save_heeds_token hcancelled hfired).1 (hunchecked _ (by decide))).2.2.1⟩,
    hfailed, ((save_heeds_token hfailed hfired).1 (hunchecked _ (by decide))).2.2.1⟩

/-! ## Tokens on a bench -/

namespace Bench

theorem hasFired_fire {b : Bench} {names : List String} :
    (b.fire names).hasFired token = true ↔ token.IsAmong names ∨ b.hasFired token = true := by
  cases token with
  | own => simp [hasFired, Token.IsAmong]
  | shared name => simp [hasFired, fire, Token.IsAmong]

theorem le_hasFired_fire (token : Token) (b : Bench) (names : List String) :
    b.hasFired token ≤ (b.fire names).hasFired token :=
  fun h => hasFired_fire.mpr (.inr h)

/-- Hooks only fire tokens, and a call is given up only for a token that has fired. -/
theorem meddle_heeds (hooks : List Hook) (b : Bench) (t token : Token) :
    b.hasFired token ≤ (b.meddle t hooks).2.hasFired token ∧
      ((b.meddle t hooks).1 = .givenUp → (b.meddle t hooks).2.hasFired t = true) := by
  induction hooks generalizing b with
  | nil => exact ⟨Bool.le_refl _, nofun⟩
  | cons hook others ih =>
    have hfire := le_hasFired_fire token b hook.cancel.toList
    unfold meddle
    simp only
    split
    · next hgiven => exact ⟨hfire, fun _ => (Bool.and_eq_true_iff.mp hgiven).2⟩
    · split
      · exact ⟨hfire, nofun⟩
      · obtain ⟨hle, hgiven⟩ := ih (b.fire hook.cancel.toList)
        exact ⟨Bool.le_trans hfire hle, hgiven⟩

theorem serve_heeds (token : Token) (b : Bench) (q : Request) (failure : Option StorageError) :
    b.hasFired token ≤ (b.serve q failure).2.hasFired token := by
  cases failure with
  | none => exact le_hasFired_fire token { b with backend := (b.backend.serve q).2.1 } (b.backend.serve q).2.2
  | some e =>
    unfold serve
    simp only
    split
    · exact Bool.le_refl _
    · exact Bool.le_refl _

theorem attempt_heeds {t : Token} {b : Bench} (q : Request) (hunfired : b.hasFired t = false) :
    Heeds token (.race t q) (b.hasFired token) (b.attempt t q).1 ((b.attempt t q).2.hasFired token) := by
  obtain ⟨hle, hgiven⟩ := meddle_heeds (b.due q.kind) (b.passHooks q.kind) t token
  have hbefore : t = token → b.hasFired token = false := fun ht => ht ▸ hunfired
  unfold attempt
  generalize (b.passHooks q.kind).meddle t (b.due q.kind) = meddled at hle hgiven
  obtain ⟨meddling, b'⟩ := meddled
  cases meddling with
  | givenUp => exact .of_abandoned hle fun ht => ⟨hbefore ht, ht ▸ hgiven rfl⟩
  | done => exact .of_finished (Bool.le_trans hle (serve_heeds token b' q _)) hbefore _
  | failed e => exact .of_finished (Bool.le_trans hle (serve_heeds token b' q _)) hbefore _

/-- **A bench heeds every token that others know**: what it answers goes with a token that fires at some time and
stays fired. -/
theorem answer_heeds (name : String) (q : Query) (b : Bench) :
    Heeds (.shared name) q (b.hasFired (.shared name)) (Bench.answer q b).1
      ((Bench.answer q b).2.hasFired (.shared name)) := by
  cases q with
  | call q =>
    exact Bool.le_trans (meddle_heeds (b.due q.kind) (b.passHooks q.kind) .own (.shared name)).1
      (serve_heeds (.shared name) _ q _)
  | race t q =>
    unfold Bench.answer
    simp only
    split
    · next ht => exact .of_refused (Bool.le_refl _) fun heq => heq ▸ ht
    · next ht => exact attempt_heeds q (eq_false_of_ne_true ht)
  | fired t => exact ⟨Bool.le_refl _, fun ht => ht ▸ ⟨Bool.le_refl _, Bool.le_refl _⟩⟩
  | wait t =>
    refine ⟨le_hasFired_fire _ b t.names, ?_⟩
    rintro rfl
    exact hasFired_fire.mpr (.inl ⟨name, List.mem_singleton_self name, rfl⟩)
  | fire names => exact ⟨le_hasFired_fire _ b names, fun h => hasFired_fire.mpr (.inl h)⟩
  | count method failed => exact Bool.le_refl _

/-- So does every run on it. -/
theorem along_heeds (name : String) {b b' : Bench} {es : List Exchange}
    (h : Along (Answering Bench.answer) b es b') :
    Along (Heeds (.shared name)) (b.hasFired (.shared name)) es (b'.hasFired (.shared name)) := by
  induction h with
  | nil b => exact .nil _
  | @cons q a b₀ b₁ b₂ es hanswer _ ih =>
    have hheeds := answer_heeds name q b₀
    rw [hanswer] at hheeds
    exact .cons hheeds ih

end Bench

end ChunkVault
