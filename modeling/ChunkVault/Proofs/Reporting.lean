/-
# ChunkVault.Proofs.Reporting -- which error an operation reports

Any call to the store may fail with any error, a source may fail while it is read, and a token may fire. A *trouble*
is one of these; a failing rollback is none, because it comes when the operation has given up already.
`firstTrouble` is the first one of a run: that of its exchanges, or else that of the source, whose failure is no
exchange. Nothing but a rollback is asked once a source has failed, so no exchange after it is a trouble.

A save and a delete answer with that first trouble and with nothing else (`save_told`, `delete_told`): a call's
error is handed on if it is `unknown` or `cancelled`, and is otherwise the cause of a new `unknown`. In
particular a `notFound` of the store is not taken for a missing file, nor an `endOfStream` for an end. Annotating
is one call, and it alone answers `notFound`, when no row was touched.
-/
import ChunkVault.Proofs.Stopping
import ChunkVault.Proofs.Smooth

namespace ChunkVault

open Program

/-! ## Troubles -/

/-- What can keep an operation from its end. -/
inductive Trouble where
  /-- A call to the store failed. -/
  | call (request : Request) (error : StorageError)
  /-- A read of the source failed, and not because it was interrupted. -/
  | read (error : IoError)
  /-- The token fired. -/
  | fired

/-- The trouble that an exchange is. The failure of a rollback is none. -/
def Exchange.trouble? : Exchange → Option Trouble
  | ⟨.call (.rollback _), _⟩ => none
  | ⟨.call q, .error e⟩ => some (.call q e)
  | ⟨.race _ _, .refused⟩ | ⟨.race _ _, .abandoned⟩ => some .fired
  | ⟨.race _ q, .finished (.error e)⟩ => some (.call q e)
  | ⟨.fired _, true⟩ | ⟨.wait _, _⟩ => some .fired
  | _ => none

/-- The trouble that a source is. One that stalls is none: the end of the wait for the token is. -/
def SourceEnd.trouble? : SourceEnd → Option Trouble
  | ended | stalled => none
  | failed e => some (.read e)

/-- The first trouble of a run whose source ends like this. -/
def firstTrouble (ending : SourceEnd) (es : List Exchange) : Option Trouble :=
  (es.findSome? Exchange.trouble?).or ending.trouble?

/-- How an operation reports a trouble: errors that need no more context are handed on, and all others become the
cause of an `unknown`. -/
inductive Trouble.Reported (operation : String) : Trouble → StorageError → Prop
  | unknown {q : Request} {context : String} {causes : List String} :
      Reported operation (.call q (.unknown context causes)) (.unknown context causes)
  | cancelled {q : Request} : Reported operation (.call q .cancelled) .cancelled
  | wrapped {q : Request} {e : StorageError} (hunknown : e.chain? = none) (hcancelled : e ≠ .cancelled) :
      Reported operation (.call q e) (.unknown (q.stage operation) [e.message])
  | read {e : IoError} : Reported operation (.read e) (.unknown "file read" [e.message])
  | fired : Reported operation .fired .cancelled

/-- An error that says no more than that something went wrong, or that the token fired. -/
def StorageError.Plain (e : StorageError) : Prop := e = .cancelled ∨ ∃ context causes, e = .unknown context causes

/-- What an operation answers by its first trouble: it succeeds if there was none, and reports it otherwise. -/
def Told {α : Type} (operation : String) : Option Trouble → Except StorageError α → Prop
  | none, r => ∃ v, r = .ok v
  | some t, r => ∃ e, r = .error e ∧ t.Reported operation e

theorem Trouble.Reported.plain {operation : String} {t : Trouble} {e : StorageError}
    (h : t.Reported operation e) : e.Plain := by
  cases h with
  | unknown => exact .inr ⟨_, _, rfl⟩
  | cancelled => exact .inl rfl
  | wrapped _ _ => exact .inr ⟨_, _, rfl⟩
  | read => exact .inr ⟨_, _, rfl⟩
  | fired => exact .inl rfl

/-- A trouble is reported in one way only. -/
theorem Trouble.Reported.unique {operation : String} {t : Trouble} {e e' : StorageError}
    (h : t.Reported operation e) (h' : t.Reported operation e') : e = e' := by
  cases h with
  | unknown =>
    cases h' with
    | unknown => rfl
    | wrapped hunknown _ => cases hunknown
  | cancelled =>
    cases h' with
    | cancelled => rfl
    | wrapped _ hcancelled => exact absurd rfl hcancelled
  | wrapped hunknown hcancelled =>
    cases h' with
    | unknown => cases hunknown
    | cancelled => exact absurd rfl hcancelled
    | wrapped _ _ => rfl
  | read =>
    cases h'
    rfl
  | fired =>
    cases h'
    rfl

theorem Told.plain {α : Type} {operation : String} {t : Option Trouble} {r : Except StorageError α}
    (h : Told operation t r) {e : StorageError} (hr : r = .error e) : e.Plain := by
  subst hr
  cases t with
  | none =>
    obtain ⟨v, hv⟩ := h
    cases hv
  | some t =>
    obtain ⟨e', he, hreported⟩ := h
    obtain rfl := Except.error.inj he
    exact hreported.plain

/-- A failed call is reported by `intoUnknown`. -/
theorem reported_intoUnknown (operation : String) (q : Request) (e : StorageError) :
    (Trouble.call q e).Reported operation (e.intoUnknown (q.stage operation)) := by
  cases e with
  | unknown context causes => exact .unknown
  | cancelled => exact .cancelled
  | _ => exact .wrapped rfl nofun

/-! ## Where the first trouble is -/

/-- Nothing in the run was a trouble. -/
def Untroubled (es : List Exchange) : Prop := ∀ x ∈ es, x.trouble? = none

theorem Untroubled.nil : Untroubled [] := fun _ hx => absurd hx List.not_mem_nil

theorem Untroubled.single {x : Exchange} (h : x.trouble? = none) : Untroubled [x] := fun y hy => by
  rw [List.mem_singleton.mp hy]
  exact h

theorem Untroubled.append {es fs : List Exchange} (hes : Untroubled es) (hfs : Untroubled fs) :
    Untroubled (es ++ fs) := fun x hx => (List.mem_append.mp hx).elim (hes x) (hfs x)

theorem Untroubled.of_passes {token : Token} {es : List Exchange} (h : ∀ x ∈ es, x.Passes token) :
    Untroubled es := by
  intro x hx
  have hpass := h x hx
  obtain ⟨query, answer⟩ := x
  cases query with
  | call q => exact hpass.elim
  | race t q =>
    obtain ⟨-, v, rfl⟩ := hpass
    rfl
  | fired t =>
    obtain ⟨-, rfl⟩ := hpass
    rfl
  | wait t => exact hpass.elim
  | fire names => rfl
  | count method failed => rfl

theorem firstTrouble_append {es : List Exchange} (hes : Untroubled es) (ending : SourceEnd)
    (fs : List Exchange) : firstTrouble ending (es ++ fs) = firstTrouble ending fs := by
  have hnone : es.findSome? Exchange.trouble? = none := List.findSome?_eq_none_iff.mpr hes
  rw [firstTrouble, List.findSome?_append, hnone, Option.none_or]
  rfl

theorem firstTrouble_untroubled {es : List Exchange} (hes : Untroubled es) (ending : SourceEnd) :
    firstTrouble ending es = ending.trouble? := by
  rw [← List.append_nil es, firstTrouble_append hes]
  rfl

theorem firstTrouble_cons {x : Exchange} {t : Trouble} (hx : x.trouble? = some t) (ending : SourceEnd)
    (fs : List Exchange) : firstTrouble ending (x :: fs) = some t := by
  rw [firstTrouble, List.findSome?_cons, hx]
  rfl

/-! ## Single exchanges -/

theorem trouble?_of_call {q : Request} {e : StorageError} (hq : ∀ tx, q ≠ .rollback tx) :
    (⟨.call q, .error e⟩ : Exchange).trouble? = some (.call q e) := by
  cases q with
  | rollback tx => exact absurd rfl (hq tx)
  | _ => rfl

/-- A raced call that comes to an error is a trouble, and the error is what is reported of it. -/
theorem race_trouble (operation : String) (token : Token) {q : Request} {race : Race q.Outcome} {e : StorageError}
    (h : race.outcome = .error e) : ∃ t, (⟨.race token q, race⟩ : Exchange).trouble? = some t ∧
      t.Reported operation (e.intoUnknown (q.stage operation)) := by
  cases race with
  | refused =>
    obtain rfl := Except.error.inj h
    exact ⟨.fired, rfl, .fired⟩
  | abandoned =>
    obtain rfl := Except.error.inj h
    exact ⟨.fired, rfl, .fired⟩
  | finished o =>
    obtain rfl : o = .error e := h
    exact ⟨.call q e, rfl, reported_intoUnknown operation q e⟩

/-- A rollback is no trouble, whether or not it fails. -/
theorem abandon_untroubled {tx : TxId} {es : List Exchange} {u : Unit} (h : (Storage.abandon tx).Ends es u) :
    Untroubled es := by
  unfold Storage.abandon at h
  simp only [bind_eq, ends_bind] at h
  obtain ⟨es₁, es₂, o, rfl, hcall, rfl, -⟩ := h
  obtain rfl := ends_call.mp hcall
  exact (Untroubled.single rfl).append .nil

/-- The commit decides, and its own error is reported. -/
theorem settle_told {α : Type} {operation : String} {tx : TxId} {value : α} {es : List Exchange}
    {r : Except StorageError α} (h : (Storage.settle tx value).Ends es r) (fs : List Exchange) (hfs : Untroubled fs) :
    Told operation (firstTrouble .ended (es ++ fs)) r := by
  obtain ⟨o, rfl, rfl⟩ := settle_ends h
  cases o with
  | ok u =>
    rw [firstTrouble_untroubled ((Untroubled.single rfl).append hfs)]
    exact ⟨value, rfl⟩
  | error e =>
    rw [List.singleton_append, firstTrouble_cons (t := .call (.commit tx) e) rfl]
    exact ⟨_, rfl, reported_intoUnknown operation (.commit tx) e⟩

theorem count_untroubled (method : Method) (failed : Bool) :
    Untroubled [(⟨.count method failed, ()⟩ : Exchange)] := .single rfl

/-! ## Saving -/

/-- What stopped an upload is the trouble that is reported. -/
theorem stops_trouble {token : Token} {tx : TxId} {source : Source} {es front : List Exchange} {x : Exchange}
    {e : StorageError} (h : (writeFile token tx source).Ends es (.error e)) (hes : es = front ++ [x])
    (hstops : x.Stops token e) : ∃ t, x.trouble? = some t ∧ t.Reported "save" (e.intoUnknown "save") := by
  obtain ⟨query, answer⟩ := x
  cases query with
  | call q => exact hstops.elim
  | fire names => exact hstops.elim
  | count method failed => exact hstops.elim
  | fired t =>
    obtain ⟨-, rfl, rfl⟩ := hstops
    exact ⟨.fired, rfl, .fired⟩
  | wait t =>
    obtain ⟨-, rfl⟩ := hstops
    exact ⟨.fired, rfl, .fired⟩
  | race t q =>
    obtain ⟨rfl, ho⟩ := hstops
    cases answer with
    | refused =>
      obtain rfl := Except.error.inj ho
      exact ⟨.fired, rfl, .fired⟩
    | abandoned =>
      obtain rfl := Except.error.inj ho
      exact ⟨.fired, rfl, .fired⟩
    | finished o =>
      -- the call is one of an upload, which are made for the save itself
      obtain rfl : o = .error e := ho
      have hreported := reported_intoUnknown "save" q e
      rw [stage_of_stopped h hes] at hreported
      exact ⟨.call q e, rfl, hreported⟩

/-- The failure of a source is reported as it is. -/
theorem SourceEnd.trouble_of_error {ending : SourceEnd} {e : StorageError} (h : ending.error? = some e) :
    ∃ t, ending.trouble? = some t ∧ t.Reported "save" e := by
  cases ending with
  | ended => cases h
  | stalled => cases h
  | failed err =>
    obtain rfl := Option.some.inj h
    exact ⟨.read err, rfl, .read⟩

/-- **A save answers with its first trouble**, and succeeds if there is none. -/
theorem save_told {token : Token} {source : Source} {es : List Exchange} {r : Except StorageError Uuid}
    (h : (Storage.save token source).Ends es r) : Told "save" (firstTrouble source.ending es) r := by
  unfold Storage.save at h
  obtain ⟨run, rfl, hrun⟩ := ends_counted.mp h
  clear h
  have hcount := count_untroubled .save (isFailure r)
  simp only [bind_eq, ends_bind] at hrun
  obtain ⟨es₁, es₂, o, rfl, hbegin, h⟩ := hrun
  obtain ⟨race, rfl, rfl⟩ := ends_race.mp hbegin
  rw [List.append_assoc, List.singleton_append]
  cases ho : race.outcome with
  | error e =>
    rw [ho] at h
    obtain ⟨rfl, rfl⟩ := h
    obtain ⟨t, ht, hreported⟩ := race_trouble "save" token ho
    rw [firstTrouble_cons ht]
    exact ⟨_, rfl, hreported⟩
  | ok tx =>
    obtain rfl := Race.eq_of_outcome_ok ho
    rw [← List.singleton_append, firstTrouble_append (.single rfl)]
    obtain ⟨es₃, es₄, w, rfl, hwrite, h⟩ := ends_bind.mp h
    rw [List.append_assoc]
    cases writeFile_prompt token tx source es₃ w hwrite with
    | @through file hpass =>
      -- all is written, and the token is looked at once more
      rw [firstTrouble_append (.of_passes hpass)]
      obtain ⟨_, _, -, hended, -⟩ | ⟨_, _, _, hr, -⟩ := writeFile_ends hwrite
      · rw [hended]
        obtain ⟨_, rest, hasFired, rfl, hlook, hrest⟩ := ends_bind.mp h
        obtain rfl := ends_fired.mp hlook
        rw [List.append_assoc, List.singleton_append]
        cases hasFired with
        | true =>
          obtain ⟨_, _, _, rfl, -, rfl, rfl⟩ := ends_bind.mp hrest
          rw [firstTrouble_cons (t := .fired) rfl]
          exact ⟨.cancelled, rfl, .fired⟩
        | false =>
          rw [← List.singleton_append, firstTrouble_append (.single rfl)]
          exact settle_told hrest _ hcount
      · cases hr
    | @stopped front x e hes hpass hstops =>
      obtain ⟨t, ht, hreported⟩ := stops_trouble hwrite hes hstops
      obtain ⟨_, _, _, rfl, -, rfl, rfl⟩ := ends_bind.mp h
      rw [hes, List.append_assoc, firstTrouble_append (.of_passes hpass), List.singleton_append,
        firstTrouble_cons ht]
      exact ⟨_, rfl, hreported⟩
    | @faulted e hpass hfault =>
      obtain ⟨t, ht, hreported⟩ := SourceEnd.trouble_of_error hfault
      obtain ⟨_, _, _, rfl, habandon, rfl, rfl⟩ := ends_bind.mp h
      rw [firstTrouble_append (.of_passes hpass),
        firstTrouble_untroubled (((abandon_untroubled habandon).append .nil).append hcount), ht]
      exact ⟨_, rfl, by rwa [SourceEnd.intoUnknown_error hfault]⟩

/-! ## Deleting -/

/-- A removal that fails ends with the call that failed; one that does not is untroubled, whatever numbers of rows
it was told. -/
theorem removeRows_trouble {tx : TxId} {id : Uuid} {es : List Exchange} {r : Except StorageError Unit}
    (h : (Storage.removeRows tx id).Ends es r) :
    r = .ok () ∧ Untroubled es ∨ ∃ front q e, r = .error e ∧ es = front ++ [⟨.call q, .error e⟩] ∧
      Untroubled front ∧ q.writesTo? = some tx := by
  unfold Storage.removeRows at h
  simp only [bind_eq, ends_bind] at h
  obtain ⟨es₁, es₂, o, rfl, hcall, h⟩ := h
  obtain rfl := ends_call.mp hcall
  cases o with
  | error e =>
    obtain ⟨rfl, rfl⟩ := h
    exact .inr ⟨[], _, e, rfl, rfl, .nil, rfl⟩
  | ok chunks =>
    simp only [ends_bind] at h
    obtain ⟨es₃, es₄, o, rfl, hcall, h⟩ := h
    obtain rfl := ends_call.mp hcall
    cases o with
    | error e =>
      obtain ⟨rfl, rfl⟩ := h
      exact .inr ⟨[⟨.call (.deleteChunks tx id), .ok chunks⟩], _, e, rfl, rfl, .single rfl, rfl⟩
    | ok files =>
      obtain ⟨rfl, rfl⟩ := h
      exact .inl ⟨rfl, (Untroubled.single rfl).append ((Untroubled.single rfl).append .nil)⟩

/-- **A delete answers with its first trouble**, and succeeds if there is none. -/
theorem delete_told {id : Uuid} {es : List Exchange} {r : Except StorageError Unit}
    (h : (Storage.delete id).Ends es r) : Told "delete" (firstTrouble .ended es) r := by
  unfold Storage.delete at h
  obtain ⟨run, rfl, hrun⟩ := ends_counted.mp h
  clear h
  have hcount := count_untroubled .delete (isFailure r)
  simp only [bind_eq, ends_bind] at hrun
  obtain ⟨es₁, es₂, o, rfl, hbegin, h⟩ := hrun
  obtain rfl := ends_call.mp hbegin
  rw [List.append_assoc]
  cases o with
  | error e =>
    obtain ⟨rfl, rfl⟩ := h
    rw [List.singleton_append, firstTrouble_cons (t := .call .begin e) rfl]
    exact ⟨_, rfl, reported_intoUnknown "delete" .begin e⟩
  | ok tx =>
    rw [firstTrouble_append (.single rfl)]
    obtain ⟨es₃, es₄, w, rfl, hremove, hrest⟩ := ends_bind.mp h
    rw [List.append_assoc]
    obtain ⟨rfl, hes₃⟩ | ⟨front, q, e, rfl, rfl, hfront, hq⟩ := removeRows_trouble hremove
    · rw [firstTrouble_append hes₃]
      exact settle_told hrest _ hcount
    · obtain ⟨_, _, _, rfl, -, rfl, rfl⟩ := ends_bind.mp hrest
      have ht := @trouble?_of_call q e fun tx' hq' => by
        rw [hq'] at hq
        cases hq
      have hreported := reported_intoUnknown "delete" q e
      rw [stage_of_writesTo? hq] at hreported
      rw [List.append_assoc, firstTrouble_append hfront, List.singleton_append, firstTrouble_cons ht]
      exact ⟨_, rfl, hreported⟩

/-- **A removal succeeds whatever numbers of rows it is told**, none included. -/
theorem delete_succeeds (id : Uuid) (tx : TxId) (chunks files : Nat) : ∃ es, (Storage.delete id).Ends es (.ok ()) ∧
    calls es = .ok .begin tx :: (removeCalls tx id chunks files ++ [.ok (.commit tx) ()]) :=
  ⟨[⟨.call .begin, .ok tx⟩, ⟨.call (.deleteChunks tx id), .ok chunks⟩, ⟨.call (.deleteFile tx id), .ok files⟩,
      ⟨.call (.commit tx), .ok ()⟩, ⟨.count .delete false, ()⟩],
    ⟨_, _, rfl, _, _, rfl, _, _, rfl, _, _, rfl, _, _, rfl, rfl, rfl⟩, rfl⟩

/-! ## Annotating -/

/-- **Annotating answers `notFound` exactly when no row was touched**; all other errors are those of its call. -/
theorem setMetadata_told {id : Uuid} {data : Bytes} {es : List Exchange} {r : Except StorageError Unit}
    (h : (Storage.setMetadata id data).Ends es r) :
    ∃ o, calls es = [⟨.updateMetadata id (some data), some o⟩] ∧ (r = .error .notFound ↔ o = .ok 0) ∧
      ∀ e, r = .error e → e = .notFound ∨ e.Plain ∧ ∃ cause, o = .error cause ∧
        (Trouble.call (.updateMetadata id (some data)) cause).Reported "update metadata" e := by
  obtain ⟨o, rfl, rfl⟩ := setMetadata_ends.mp h
  refine ⟨o, rfl, ?_⟩
  cases o with
  | error cause =>
    have hreported := reported_intoUnknown "update metadata" (.updateMetadata id (some data)) cause
    refine ⟨⟨fun hnot => ?_, nofun⟩, fun e he => ?_⟩
    · -- what a call's error is made into is not `notFound`
      have hnot : cause.intoUnknown "update metadata" = .notFound := Except.error.inj hnot
      obtain hplain | ⟨context, causes, hplain⟩ := hreported.plain
      · cases hplain.symm.trans hnot
      · cases hplain.symm.trans hnot
    · obtain rfl := Except.error.inj he
      exact .inr ⟨hreported.plain, cause, rfl, hreported⟩
  | ok rows =>
    by_cases hrows : rows = 0
    · subst hrows
      exact ⟨⟨fun _ => rfl, fun _ => rfl⟩, fun e he => .inl (Except.error.inj he).symm⟩
    · have hok : annotated (.ok rows) = .ok () := if_neg hrows
      rw [hok]
      exact ⟨⟨nofun, fun hzero => absurd (Except.ok.inj hzero) hrows⟩, nofun⟩

/-! ## The operations -/

/-- **Every operation reports what went wrong first.** A save and a delete succeed if nothing did, and otherwise
answer with the first trouble, as `unknown` or `cancelled`; what becomes of the rollback makes no difference to
that. A delete also succeeds where there was nothing to remove. Annotating answers `notFound` exactly when its call
has touched no row, and otherwise fails only with that call. -/
theorem first_trouble_reported :
    (∀ token source es r, (Storage.save token source).Ends es r →
      Told "save" (firstTrouble source.ending es) r ∧ ∀ e, r = .error e → e.Plain) ∧
    (∀ id es r, (Storage.delete id).Ends es r →
      Told "delete" (firstTrouble .ended es) r ∧ ∀ e, r = .error e → e.Plain) ∧
    (∀ id tx chunks files, ∃ es, (Storage.delete id).Ends es (.ok ()) ∧
      calls es = .ok .begin tx :: (removeCalls tx id chunks files ++ [.ok (.commit tx) ()])) ∧
    ∀ id data es r, (Storage.setMetadata id data).Ends es r →
      ∃ o, calls es = [⟨.updateMetadata id (some data), some o⟩] ∧ (r = .error .notFound ↔ o = .ok 0) ∧
        ∀ e, r = .error e → e = .notFound ∨ e.Plain ∧ ∃ cause, o = .error cause ∧
          (Trouble.call (.updateMetadata id (some data)) cause).Reported "update metadata" e :=
  ⟨fun _ _ _ _ h => ⟨save_told h, fun _ hr => (save_told h).plain hr⟩,
    fun _ _ _ h => ⟨delete_told h, fun _ hr => (delete_told h).plain hr⟩, delete_succeeds,
    fun _ _ _ _ h => setMetadata_told h⟩

/-- A chunk of one byte is refused with `notFound`, and then the rollback fails too: the save reports the refusal, as
`unknown`. -/
theorem first_trouble_reported_refused_chunk :
    let file : Uuid := .ofNat 1
    let es : List Exchange :=
      [⟨.race .own .begin, .finished (.ok 0)⟩, ⟨.race .own (.insertFile 0), .finished (.ok file)⟩,
        ⟨.fired .own, false⟩, ⟨.race .own (.insertChunk 0 file [97]), .finished (.error .notFound)⟩,
        ⟨.call (.rollback 0), .error (.unknown "lost" [])⟩, ⟨.count .save true, ()⟩]
    let r : Except StorageError Uuid := .error (.unknown "save" ["not found"])
    (Storage.save .own [.bytes [97]]).Ends es r ∧ Told "save" (firstTrouble .ended es) r := by
  intro file es r
  have h : (Storage.save .own [.bytes [97]]).Ends es r :=
    ⟨_, _, rfl, _, _, rfl, _, _, rfl, _, _, rfl, _, _, rfl, _, _, rfl, rfl, rfl⟩
  exact ⟨h, (first_trouble_reported.1 _ _ _ _ h).1⟩

end ChunkVault
