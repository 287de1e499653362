/-
# ChunkVault.Proofs.Stopping -- where a save stops, and why

`SaveStop` is what it comes to for a save that its upload is prompt: it is stopped, or has a source that failed,
and then closes its transaction without a commit; or it finds the token not to have fired after all has been
written, and then the commit decides. Nothing is assumed about the store or the token.
-/
import ChunkVault.Proofs.Prompt

namespace ChunkVault

open Program

/-! ## The last look at the token -/

/-- The size and the order of the chunks have been noted. -/
def Finished (es : List Exchange) : Prop :=
  ∃ tx file size ids, CallRecord.ok (.finishFile tx file size ids) () ∈ calls es

/-- A save has looked at its token after all was written, and found that it had not fired. -/
def PastCheck (token : Token) (es : List Exchange) : Prop :=
  ∃ fs gs, es = fs ++ ⟨.fired token, false⟩ :: gs ∧ Finished fs

theorem Finished.append {es : List Exchange} (h : Finished es) (fs : List Exchange) :
    Finished (es ++ fs) := by
  obtain ⟨tx, file, size, ids, h⟩ := h
  exact ⟨tx, file, size, ids, by rw [calls_append]; exact List.mem_append_left _ h⟩

theorem PastCheck.append {token : Token} {es : List Exchange} (h : PastCheck token es) (fs : List Exchange) :
    PastCheck token (es ++ fs) := by
  obtain ⟨as, bs, rfl, h⟩ := h
  exact ⟨as, bs ++ fs, by rw [List.append_assoc]; rfl, h⟩

/-- No such look has come before all was written, and none comes without one. -/
theorem not_pastCheck {token : Token} {es fs : List Exchange} (hes : ¬Finished es)
    (hfs : (⟨.fired token, false⟩ : Exchange) ∉ fs) : ¬PastCheck token (es ++ fs) := by
  rintro ⟨as, bs, heq, hfinished⟩
  rcases List.append_eq_append_iff.mp heq with ⟨mid, rfl, rfl⟩ | ⟨mid, rfl, hmid⟩
  · exact hfs (List.mem_append_right _ List.mem_cons_self)
  · exact hes (hfinished.append mid)

/-- Calls that break a script off have not made its last call, if only that one notes the size. -/
theorem Attempts.not_finished {l front : List CallRecord} {last : CallRecord}
    (h : Attempts l (front ++ [last])) {q : Request} {v : q.Reply} (hfront : .ok q v ∉ front) :
    .ok q v ∉ l := by
  obtain ⟨done, next, rest, hscript, hl⟩ := h
  have hdone : ∀ c ∈ done, c ∈ front := by
    intro c hc
    rw [← List.dropLast_concat_getLast (List.cons_ne_nil next rest), ← List.append_assoc] at hscript
    rw [(List.append_inj' hscript rfl).1]
    exact List.mem_append_left _ hc
  intro hmem
  rcases hl with rfl | ⟨c, rfl, -, hfail⟩
  · exact hfront (hdone _ hmem)
  · rcases List.mem_append.mp hmem with hmem | hmem
    · exact hfront (hdone _ hmem)
    · rw [← List.mem_singleton.mp hmem] at hfail
      exact hfail v rfl

/-- The rows of an upload do not note its size. -/
theorem finishFile_notMem {tx tx' : TxId} {file owner : Uuid} {rows : List ChunkRecord} {size : Int}
    {ids : List Uuid} : .ok (.finishFile tx' owner size ids) () ∉
      .ok (.insertFile tx) file :: insertCalls tx rows := by
  intro h
  rcases List.mem_cons.mp h with h | h
  · cases congrArg CallRecord.request h
  · obtain ⟨row, -, h⟩ := List.mem_map.mp h
    cases congrArg CallRecord.request h

/-- An upload that fails has not come as far as noting the size. -/
theorem writeFile_not_finished {token : Token} {tx : TxId} {source : Source} {es : List Exchange}
    {e : StorageError} (h : (writeFile token tx source).Ends es (.error e)) : ¬Finished es := by
  rintro ⟨tx', file', size, ids, hmem⟩
  obtain ⟨_, _, hr, -⟩ | ⟨err, file, rows, -, -, hatt, -⟩ := writeFile_ends h
  · cases hr
  · rw [uploadCalls, ← List.cons_append] at hatt
    exact hatt.not_finished finishFile_notMem hmem

/-- One that succeeds notes the size with its last call. -/
theorem writeFile_finishes {token : Token} {tx : TxId} {source : Source} {es : List Exchange}
    {file : Uuid} (h : (writeFile token tx source).Ends es (.ok file)) :
    ∃ front size ids, es = front ++ [⟨.race token (.finishFile tx file size ids), .finished (.ok ())⟩] ∧
      ¬Finished front ∧ .ok (.insertFile tx) file ∈ calls front := by
  unfold writeFile at h
  simp only [bind_eq, ends_bind] at h
  obtain ⟨es₁, es₂, o, rfl, hfirst, h⟩ := h
  obtain ⟨file', rfl, hc₁⟩ | ⟨e, rfl, -⟩ := race_ends hfirst
  · simp only [ends_bind] at h
    obtain ⟨es₃, es₄, w, rfl, hwrite, h⟩ := h
    obtain ⟨rows, rfl, -, -, hc₃⟩ | ⟨e, rfl, -⟩ := writeChunks_ends source.fills_results hwrite
    · simp only [ends_bind] at h
      obtain ⟨es₅, es₆, o, rfl, hlast, h⟩ := h
      obtain ⟨race, rfl, rfl⟩ := ends_race.mp hlast
      cases ho : race.outcome with
      | ok u =>
        rw [ho] at h
        obtain ⟨rfl, hr⟩ := h
        obtain rfl := Except.ok.inj hr
        obtain rfl := Race.eq_of_outcome_ok ho
        have hc : calls (es₁ ++ es₃) = .ok (.insertFile tx) file :: insertCalls tx rows := by
          rw [calls_append, hc₁, hc₃]
          rfl
        refine ⟨es₁ ++ es₃, _, _, by rw [List.append_nil, List.append_assoc], ?_, ?_⟩
        · rintro ⟨tx', file', size, ids, hmem⟩
          rw [hc] at hmem
          exact finishFile_notMem hmem
        · rw [hc]
          exact List.mem_cons_self
      | error e =>
        rw [ho] at h
        cases h.2
    · cases h.2
  · cases h.2

/-! ## Where a save stops -/

/-- What was being done when a call of this operation failed. -/
def Request.stage (operation : String) : Request → String
  | begin => "begin tx"
  | commit _ => "commit"
  | _ => operation

theorem stage_of_writesTo? {q : Request} {tx : TxId} (h : q.writesTo? = some tx) (operation : String) :
    q.stage operation = operation := by
  cases q with
  | begin => cases h
  | commit n => cases h
  | _ => rfl

/-- A call that is made for an upload and fails is made for the operation itself. -/
theorem stage_of_stopped {token : Token} {tx : TxId} {source : Source} {es front : List Exchange} {q : Request}
    {o : q.Outcome} {e : StorageError} (h : (writeFile token tx source).Ends es (.error e))
    (hes : es = front ++ [⟨.race token q, .finished o⟩]) (operation : String) : q.stage operation = operation := by
  have hmem : (⟨q, some o⟩ : CallRecord) ∈ calls es := by
    rw [hes, calls_append]
    exact List.mem_append_right _ List.mem_cons_self
  obtain ⟨_, _, hr, -⟩ | ⟨_, _, _, -, -, hatt, -⟩ := writeFile_ends h
  · cases hr
  · exact stage_of_writesTo? (hatt.writesTo? (fun c => writesTo?_of_uploadCalls) _ hmem) operation

/-- Nothing is called but a rollback, and that once at most. -/
def OnlyRollsBack (es : List Exchange) : Prop :=
  calls es = [] ∨ ∃ (tx : TxId) (o : (Request.rollback tx).Outcome), calls es = [⟨.rollback tx, some o⟩]

/-- The end of a save that does not commit: it looks at the token no more, and at most rolls back. -/
structure Closing (token : Token) (tail : List Exchange) : Prop where
  unlooking : ∀ x ∈ tail, ¬x.LooksAt token
  rollback : OnlyRollsBack tail

/-- Nothing was committed, and the save has not come as far as its last look at the token. -/
structure Uncommitted (token : Token) (es : List Exchange) : Prop where
  commit : ∀ c ∈ calls es, ∀ tx, c.request ≠ .commit tx
  unchecked : ¬PastCheck token es

/-- The ways in which a save can stop, or come through to its commit. -/
inductive SaveStop (token : Token) (source : Source) (es : List Exchange) : Except StorageError Uuid → Prop
  /-- Something stopped it: a call to begin, or something later. Its source had not failed it yet. -/
  | stopped {front tail : List Exchange} {x : Exchange} {e : StorageError} {context : String}
      (hes : es = front ++ x :: tail) (hpass : ∀ y ∈ front, y.Passes token)
      (hunfailed : ∀ err, ¬source.FailedBy front err) (hstops : x.Stops token e)
      (hcontext : ∀ (q : Request) (o : q.Outcome), x = ⟨.race token q, .finished o⟩ → context = q.stage "save")
      (htail : Closing token tail) (hnone : Uncommitted token es) :
      SaveStop token source es (.error (e.intoUnknown context))
  /-- Its source failed it. -/
  | faulted {front tail : List Exchange} {err : IoError} (hes : es = front ++ tail)
      (hpass : ∀ y ∈ front, y.Passes token) (hfailed : source.FailedBy front err)
      (htail : Closing token tail) (hnone : Uncommitted token es) :
      SaveStop token source es (.error (.unknown "file read" [err.message]))
  /-- Nothing did, and the commit decides. -/
  | settled {front : List Exchange} {tx : TxId} {file : Uuid} {o : (Request.commit tx).Outcome} {failed : Bool}
      (hes : es = front ++ [⟨.fired token, false⟩, ⟨.call (.commit tx), o⟩, ⟨.count .save failed, ()⟩])
      (hpass : ∀ y ∈ front, y.Passes token) (hfinished : Finished front)
      (hfile : .ok (.insertFile tx) file ∈ calls front) : SaveStop token source es (settled file o)

/-- What is left to do for an upload that broke off: the rollback, and the count. -/
theorem closing_of_abandon (token : Token) {tx : TxId} {es : List Exchange} {u : Unit}
    (h : (Storage.abandon tx).Ends es u) (failed : Bool) :
    Closing token (es ++ [⟨.count .save failed, ()⟩]) ∧
      ∃ o, calls (es ++ [⟨.count .save failed, ()⟩]) = [⟨.rollback tx, some o⟩] := by
  unfold Storage.abandon at h
  simp only [bind_eq, ends_bind] at h
  obtain ⟨es₁, es₂, o, rfl, hcall, rfl, -⟩ := h
  obtain rfl := ends_call.mp hcall
  refine ⟨⟨fun x hx => ?_, .inr ⟨tx, o, rfl⟩⟩, o, rfl⟩
  rcases List.mem_cons.mp hx with rfl | hx
  · exact not_false
  · rw [List.mem_singleton.mp hx]
    exact not_false

theorem Closing.notMem {token : Token} {tail : List Exchange} (h : Closing token tail) :
    (⟨.fired token, false⟩ : Exchange) ∉ tail := fun hmem => h.unlooking _ hmem rfl

/-- A transaction that ends with a rollback has no commit in it. -/
theorem commit_notMem_of_rollback {Whole : TxId → List CallRecord → Prop} {es tail : List Exchange} {tx : TxId}
    (h : Transacted Whole (calls (es ++ tail)))
    (htail : ∃ o : (Request.rollback tx).Outcome, calls tail = [⟨.rollback tx, some o⟩]) :
    ∀ c ∈ calls (es ++ tail), ∀ tx', c.request ≠ .commit tx' := by
  obtain ⟨o, htail⟩ := htail
  intro c hc tx' hreq
  rw [calls_append, htail] at h hc
  rcases List.mem_append.mp hc with hc | hc
  · have hnot := h.publishes_front (List.cons_ne_nil _ _) hc
    rw [hreq] at hnot
    cases hnot
  · rw [List.mem_singleton.mp hc] at hreq
    cases hreq

theorem begin_of_calls {token : Token} {race : Race (Request.begin).Outcome} {c : CallRecord}
    (hc : c ∈ calls [⟨.race token .begin, race⟩]) : c.request = .begin := by
  obtain ⟨x, hx, hcall⟩ := List.mem_filterMap.mp hc
  rw [List.mem_singleton.mp hx] at hcall
  cases race with
  | refused => cases hcall
  | abandoned => rw [← Option.some.inj hcall]
  | finished o => rw [← Option.some.inj hcall]

/-- A save that has begun and not noted the size of its content is not finished. -/
theorem not_finished_begin (token : Token) (race : Race (Request.begin).Outcome) {es : List Exchange}
    (h : ¬Finished es) : ¬Finished ([⟨.race token .begin, race⟩] ++ es) := by
  rintro ⟨tx, file, size, ids, hmem⟩
  rw [calls_append] at hmem
  rcases List.mem_append.mp hmem with hmem | hmem
  · cases begin_of_calls hmem
  · exact h ⟨tx, file, size, ids, hmem⟩

/-- The error of a source is handed on as it is. -/
theorem SourceEnd.intoUnknown_error {ending : SourceEnd} {e : StorageError} (h : ending.error? = some e)
    (context : String) : e.intoUnknown context = e := by
  cases ending with
  | ended => cases h
  | stalled => cases h
  | failed err =>
    obtain rfl := Option.some.inj h
    rfl

/-- A save that cannot begin has no transaction, so there is nothing to roll back. -/
theorem unbegun_stops {token : Token} {race : Race (Request.begin).Outcome} {e : StorageError}
    (ho : race.outcome = .error e) (source : Source) (failed : Bool) :
    SaveStop token source [⟨.race token .begin, race⟩, ⟨.count .save failed, ()⟩]
      (.error (e.intoUnknown "begin tx")) := by
  have htail : Closing token [⟨.count .save failed, ()⟩] :=
    ⟨fun x hx => by rw [List.mem_singleton.mp hx]; exact not_false, .inl rfl⟩
  have hempty : ¬Finished [] := fun ⟨_, _, _, _, hmem⟩ => List.not_mem_nil hmem
  have hcommit : ∀ c ∈ calls [⟨.race token .begin, race⟩, ⟨.count .save failed, ()⟩], ∀ tx,
      c.request ≠ .commit tx := by
    intro c hc tx hreq
    rw [@begin_of_calls token race c hc] at hreq
    cases hreq
  have hunchecked := not_pastCheck (not_finished_begin token race hempty) htail.notMem
  have hunfailed : ∀ err, ¬source.FailedBy [] err := fun err ⟨hend, hle⟩ =>
    Nat.not_lt_of_le hle (writeFile_paced token 0 hend).2
  refine SaveStop.stopped (x := ⟨.race token .begin, race⟩) rfl (fun y hy => absurd hy List.not_mem_nil) hunfailed
    ⟨rfl, ho⟩ (fun q o hx => ?_) htail ⟨hcommit, hunchecked⟩
  obtain rfl : Request.begin = q := (Query.race.inj (congrArg Exchange.query hx)).2
  rfl

section Begun

variable {token : Token} {source : Source} {tx : TxId} {es rest : List Exchange} {failed : Bool}
  {v r : Except StorageError Uuid}

/-- A save that gives its transaction up answers with its error after one rollback, and nothing of it was
committed. -/
theorem abandoned_stops (h : ((Storage.abandon tx).bind fun _ => Program.done v).Ends rest r)
    (htransacted : Transacted (WholeUpload source) (calls (es ++ (rest ++ [⟨.count .save failed, ()⟩]))))
    (hunchecked : ∀ tail : List Exchange, ⟨.fired token, false⟩ ∉ tail → ¬PastCheck token (es ++ tail)) :
    r = v ∧ Closing token (rest ++ [⟨.count .save failed, ()⟩]) ∧
      Uncommitted token (es ++ (rest ++ [⟨.count .save failed, ()⟩])) := by
  obtain ⟨es₁, _, u, rfl, hab, rfl, rfl⟩ := ends_bind.mp h
  obtain ⟨hclosing, hrollback⟩ := closing_of_abandon token hab failed
  rw [List.append_nil] at htransacted ⊢
  exact ⟨rfl, hclosing, commit_notMem_of_rollback htransacted hrollback, hunchecked _ hclosing.notMem⟩

/-- **When all is written, the token is looked at once more**, and then the commit decides. -/
theorem written_stops {file : Uuid}
    (hbegin : ∀ y ∈ [(⟨.race token .begin, .finished (.ok tx)⟩ : Exchange)], y.Passes token)
    (hpass : ∀ y ∈ es, y.Passes token) (hwrite : (writeFile token tx source).Ends es (.ok file))
    (h : ((fired token).bind fun hasFired =>
      if hasFired = true then (Storage.abandon tx).bind fun _ => Program.done (.error .cancelled)
      else Storage.settle tx file).Ends rest r)
    (htransacted : Transacted (WholeUpload source) (calls ([⟨.race token .begin, .finished (.ok tx)⟩] ++ es ++
      (rest ++ [⟨.count .save failed, ()⟩])))) :
    SaveStop token source
      ([⟨.race token .begin, .finished (.ok tx)⟩] ++ es ++ (rest ++ [⟨.count .save failed, ()⟩])) r := by
  obtain ⟨front, size, ids, rfl, hunfinished, hfile⟩ := writeFile_finishes hwrite
  have hpass := pass_append hbegin hpass
  obtain ⟨_, rest, hasFired, rfl, hlook, hrest⟩ := ends_bind.mp h
  obtain rfl := ends_fired.mp hlook
  cases hasFired with
  | true =>
    have hunchecked : ∀ tail : List Exchange, ⟨.fired token, false⟩ ∉ tail →
        ¬PastCheck token ([⟨.race token .begin, .finished (.ok tx)⟩] ++
          (front ++ [⟨.race token (.finishFile tx file size ids), .finished (.ok ())⟩]) ++
            [⟨.fired token, true⟩] ++ tail) := by
      intro tail htail
      have hafter : (⟨.fired token, false⟩ : Exchange) ∉
          ⟨.race token (.finishFile tx file size ids), .finished (.ok ())⟩ :: ⟨.fired token, true⟩ :: tail := by
        simp [htail]
      have hno := not_pastCheck (not_finished_begin token (.finished (.ok tx)) hunfinished) hafter
      simpa only [List.append_assoc, List.cons_append, List.nil_append] using hno
    rw [List.append_assoc [_] rest, ← List.append_assoc] at htransacted ⊢
    obtain ⟨rfl, hclosing, hnone⟩ := abandoned_stops hrest htransacted hunchecked
    show SaveStop token source _ (.error (StorageError.cancelled.intoUnknown "save"))
    -- the source has ended as it should
    have hunfailed : ∀ err, ¬source.FailedBy ([⟨.race token .begin, .finished (.ok tx)⟩] ++ (front ++
        [⟨.race token (.finishFile tx file size ids), .finished (.ok ())⟩])) err := by
      rintro err ⟨hend, -⟩
      obtain ⟨_, _, -, hended, -⟩ | ⟨_, _, _, hr, -⟩ := writeFile_ends hwrite
      · rw [hended] at hend
        cases hend
      · cases hr
    exact SaveStop.stopped (x := ⟨.fired token, true⟩) (List.append_assoc _ _ _) hpass hunfailed ⟨rfl, rfl, rfl⟩
      (fun q o hx => nomatch congrArg Exchange.query hx) hclosing hnone
  | false =>
    obtain ⟨o, rfl, rfl⟩ := settle_ends hrest
    refine @SaveStop.settled token source _ _ tx file o failed rfl hpass ⟨tx, file, size, ids, ?_⟩ ?_
    · rw [calls_append, calls_append]
      exact List.mem_append_right _ (List.mem_append_right _ List.mem_cons_self)
    · rw [calls_append, calls_append]
      exact List.mem_append_right _ (List.mem_append_left _ hfile)

end Begun

/-- **Every save stops, or comes through, in one of these ways.** -/
theorem save_stops {token : Token} {source : Source} {es : List Exchange} {r : Except StorageError Uuid}
    (h : (Storage.save token source).Ends es r) : SaveStop token source es r := by
  have htransacted := save_transacted h
  unfold Storage.save at h
  obtain ⟨run, rfl, hrun⟩ := ends_counted.mp h
  clear h
  generalize isFailure r = failed at htransacted ⊢
  simp only [bind_eq, ends_bind] at hrun
  obtain ⟨es₁, es₂, o, rfl, hbegin, h⟩ := hrun
  obtain ⟨race, rfl, rfl⟩ := ends_race.mp hbegin
  cases ho : race.outcome with
  | error e =>
    rw [ho] at h
    obtain ⟨rfl, rfl⟩ := h
    exact unbegun_stops ho source failed
  | ok tx =>
    obtain rfl := Race.eq_of_outcome_ok ho
    obtain ⟨es₃, es₄, w, rfl, hwrite, h⟩ := ends_bind.mp h
    have hfirst : ∀ y ∈ [(⟨.race token .begin, .finished (.ok tx)⟩ : Exchange)], y.Passes token := by
      intro y hy
      rw [List.mem_singleton.mp hy]
      exact ⟨rfl, tx, rfl⟩
    rw [← List.append_assoc, List.append_assoc] at htransacted ⊢
    have hunchecked : (∀ v, w ≠ .ok v) → ∀ tail : List Exchange, ⟨.fired token, false⟩ ∉ tail →
        ¬PastCheck token ([⟨.race token .begin, .finished (.ok tx)⟩] ++ es₃ ++ tail) := by
      intro hw tail
      cases w with
      | error e => exact not_pastCheck (not_finished_begin token _ (writeFile_not_finished hwrite))
      | ok v => exact absurd rfl (hw v)
    cases writeFile_prompt token tx source es₃ w hwrite with
    | through hpass => exact written_stops hfirst hpass hwrite h htransacted
    | @stopped front x e hes hpass hstops =>
      obtain ⟨rfl, hclosing, hnone⟩ := abandoned_stops h htransacted (hunchecked nofun)
      have hunfailed : ∀ err, ¬source.FailedBy ([⟨.race token .begin, .finished (.ok tx)⟩] ++ front) err :=
        fun err hfailed => not_failedBy_of_stopped hwrite hes hstops.not_passes (hfailed.after rfl)
      refine SaveStop.stopped ?_ (pass_append hfirst hpass) hunfailed hstops (fun q o hx => ?_) hclosing hnone
      · rw [hes]
        simp only [List.append_assoc, List.cons_append, List.nil_append]
      · rw [hx] at hes
        exact (stage_of_stopped hwrite hes "save").symm
    | faulted hpass hfault =>
      obtain ⟨rfl, hclosing, hnone⟩ := abandoned_stops h htransacted (hunchecked nofun)
      rw [SourceEnd.intoUnknown_error hfault]
      obtain ⟨err, hfailed, rfl⟩ := failedBy_of_faulted hwrite hpass hfault
      exact SaveStop.faulted rfl (pass_append hfirst hpass) (hfailed.before _) hclosing hnone

end ChunkVault
