/-
# ChunkVault.Proofs.Prompt -- an upload ends at the first thing in its way

An upload goes on while the calls that it races against its token succeed and the token is found not to
have fired. It ends at the first exchange that is otherwise, or where its source fails it, and makes no
further call. `Prompt` says so of a program, sequences of prompt programs are prompt, and so the whole
upload is (`writeFile_prompt`). Nothing is assumed about the store or the token.

The reads of a source are no exchanges, but its polls begin with one: each looks at the token, and goes on to
read only if the token has not fired. `pollsIn` counts them in a trace, and `Source.polls` says how many a source
takes to be read as far as it goes, so that a trace shows whether a read has failed yet (`Source.FailedBy`). An
upload takes all the polls of a source that fails it, and fewer if it is stopped before (`writeFile_paced`).
-/
import ChunkVault.Proofs.Transacted

namespace ChunkVault

open Program

/-! ## Exchanges that depend on a token -/

namespace Exchange

/-- The exchange has to do with whether the token has fired: it looks at the token, or waits for it. -/
def LooksAt (token : Token) : Exchange → Prop
  | ⟨.race t _, _⟩ | ⟨.fired t, _⟩ | ⟨.wait t, _⟩ => t = token
  | ⟨.call _, _⟩ | ⟨.fire _, _⟩ | ⟨.count .., _⟩ => False

/-- The exchange lets an upload go on: a call that was raced and succeeded, the news that the token has not
fired, or a token that the source fires. -/
def Passes (token : Token) : Exchange → Prop
  | ⟨.race t _, race⟩ => t = token ∧ ∃ v, race = .finished (.ok v)
  | ⟨.fired t, answer⟩ => t = token ∧ answer = false
  | ⟨.fire _, _⟩ => True
  | ⟨.call _, _⟩ | ⟨.wait _, _⟩ | ⟨.count .., _⟩ => False

/-- The exchange stops an upload with this error: a call that was raced and failed or was given up, the news
that the token has fired, or the end of a wait for it. -/
def Stops (token : Token) (e : StorageError) : Exchange → Prop
  | ⟨.race t _, race⟩ => t = token ∧ race.outcome = .error e
  | ⟨.fired t, answer⟩ => t = token ∧ answer = true ∧ e = .cancelled
  | ⟨.wait t, _⟩ => t = token ∧ e = .cancelled
  | ⟨.call _, _⟩ | ⟨.fire _, _⟩ | ⟨.count .., _⟩ => False

theorem Stops.not_passes {token : Token} {e : StorageError} {x : Exchange} (h : x.Stops token e) :
    ¬x.Passes token := by
  obtain ⟨q, answer⟩ := x
  cases q with
  | call q => exact h.elim
  | race t q =>
    rintro ⟨-, v, rfl⟩
    cases h.2
  | fired t =>
    rintro ⟨-, rfl⟩
    cases h.2.1
  | wait t => exact not_false
  | fire names => exact h.elim
  | count method failed => exact not_false

end Exchange

theorem Race.eq_of_outcome_ok {α : Type} {race : Race (Except StorageError α)} {v : α}
    (h : race.outcome = .ok v) : race = .finished (.ok v) := by
  cases race with
  | refused => cases h
  | abandoned => cases h
  | finished o => exact congrArg Race.finished h

/-! ## Prompt programs -/

/-- How the run of a prompt program ends; `fault` says which errors are those of the source. -/
inductive Halts {α : Type} (token : Token) (fault : StorageError → Prop) (es : List Exchange) :
    Except StorageError α → Prop
  | through {v : α} (hpass : ∀ x ∈ es, x.Passes token) : Halts token fault es (.ok v)
  | stopped {front : List Exchange} {x : Exchange} {e : StorageError} (hes : es = front ++ [x])
      (hpass : ∀ y ∈ front, y.Passes token) (hstops : x.Stops token e) : Halts token fault es (.error e)
  | faulted {e : StorageError} (hpass : ∀ x ∈ es, x.Passes token) (hfault : fault e) :
      Halts token fault es (.error e)

/-- The program ends at the first exchange that stops it, or where its source fails it. -/
def Prompt {α : Type} (token : Token) (fault : StorageError → Prop)
    (p : Program (Except StorageError α)) : Prop :=
  ∀ es r, p.Ends es r → Halts token fault es r

section Prompt

variable {α β : Type} {token : Token} {fault : StorageError → Prop}

theorem pass_append {es fs : List Exchange} (hes : ∀ x ∈ es, x.Passes token)
    (hfs : ∀ x ∈ fs, x.Passes token) : ∀ x ∈ es ++ fs, x.Passes token := fun x hx =>
  (List.mem_append.mp hx).elim (hes x) (hfs x)

/-- What passes before the run of a prompt program does not change how the run ends. -/
theorem Halts.after {es fs : List Exchange} {r : Except StorageError α} (h : Halts token fault fs r)
    (hes : ∀ x ∈ es, x.Passes token) : Halts token fault (es ++ fs) r := by
  cases h with
  | through hpass => exact .through (pass_append hes hpass)
  | stopped hfs hpass hstops =>
    exact .stopped (by rw [hfs, List.append_assoc]) (pass_append hes hpass) hstops
  | faulted hpass hfault => exact .faulted (pass_append hes hpass) hfault

theorem Prompt.mono {fault' : StorageError → Prop} {p : Program (Except StorageError α)}
    (h : Prompt token fault p) (himp : ∀ e, fault e → fault' e) : Prompt token fault' p := by
  intro es r hrun
  cases h es r hrun with
  | through hpass => exact .through hpass
  | stopped hes hpass hstops => exact .stopped hes hpass hstops
  | faulted hpass hfault => exact .faulted hpass (himp _ hfault)

theorem prompt_ok (v : α) : Prompt token fault (.done (.ok v)) := by
  rintro es r ⟨rfl, rfl⟩
  exact .through fun x hx => absurd hx List.not_mem_nil

theorem prompt_fault {e : StorageError} (h : fault e) :
    Prompt token fault (.done (.error e) : Program (Except StorageError α)) := by
  rintro es r ⟨rfl, rfl⟩
  exact .faulted (fun x hx => absurd hx List.not_mem_nil) h

theorem race_prompt (token : Token) (fault : StorageError → Prop) (q : Request) :
    Prompt token fault (race token q) := by
  intro es o hrun
  obtain ⟨race, rfl, rfl⟩ := ends_race.mp hrun
  cases ho : race.outcome with
  | ok v =>
    refine .through fun x hx => ?_
    rw [List.mem_singleton.mp hx]
    exact ⟨rfl, v, Race.eq_of_outcome_ok ho⟩
  | error e =>
    exact .stopped (List.nil_append _).symm (fun x hx => absurd hx List.not_mem_nil) ⟨rfl, ho⟩

/-- **A sequence of prompt programs is prompt**, if it hands on the error of its first part. -/
theorem Prompt.bind {p : Program (Except StorageError α)}
    {next : Except StorageError α → Program (Except StorageError β)} (hp : Prompt token fault p)
    (herror : ∀ e, next (.error e) = .done (.error e)) (hok : ∀ v, Prompt token fault (next (.ok v))) :
    Prompt token fault (p.bind next) := by
  intro es r hrun
  obtain ⟨es₁, es₂, o, rfl, h₁, h₂⟩ := ends_bind.mp hrun
  cases hp es₁ o h₁ with
  | @through v hpass => exact (hok v es₂ r h₂).after hpass
  | @stopped front x e hes hpass hstops =>
    rw [herror] at h₂
    obtain ⟨rfl, rfl⟩ := h₂
    exact .stopped (by rw [hes, List.append_nil]) hpass hstops
  | @faulted e hpass hfault =>
    rw [herror] at h₂
    obtain ⟨rfl, rfl⟩ := h₂
    exact .faulted (by rw [List.append_nil]; exact hpass) hfault

/-- A program is prompt that begins with a look at the token. -/
theorem Prompt.check {p : Program (Except StorageError α)} (hp : Prompt token fault p) :
    Prompt token fault ((fired token).bind fun b => if b then .done (.error .cancelled) else p) := by
  intro es r hrun
  obtain ⟨es₁, es₂, b, rfl, h₁, h₂⟩ := ends_bind.mp hrun
  obtain rfl := ends_fired.mp h₁
  cases b with
  | true =>
    obtain ⟨rfl, rfl⟩ := h₂
    exact .stopped (x := ⟨.fired token, true⟩) rfl (fun y hy => absurd hy List.not_mem_nil) ⟨rfl, rfl, rfl⟩
  | false =>
    refine (hp es₂ r h₂).after fun x hx => ?_
    rw [List.mem_singleton.mp hx]
    exact ⟨rfl, rfl⟩

/-- A program is prompt that waits for the token, and then gives up. -/
theorem Prompt.wait : Prompt token fault
    ((wait token).bind fun _ => .done (.error .cancelled) : Program (Except StorageError α)) := by
  intro es r hrun
  obtain ⟨_, _, u, rfl, hwait, rfl, rfl⟩ := ends_bind.mp hrun
  obtain rfl := ends_wait.mp hwait
  exact .stopped (x := ⟨.wait token, ()⟩) rfl (fun y hy => absurd hy List.not_mem_nil) ⟨rfl, rfl⟩

theorem Prompt.fire {p : Program (Except StorageError α)} (names : List String)
    (hp : Prompt token fault p) : Prompt token fault ((fire names).bind fun _ => p) := by
  intro es r hrun
  obtain ⟨es₁, es₂, u, rfl, h₁, h₂⟩ := ends_bind.mp hrun
  refine (hp es₂ r h₂).after ?_
  unfold Program.fire at h₁
  split at h₁
  · obtain ⟨rfl, -⟩ := h₁
    exact fun x hx => absurd hx List.not_mem_nil
  · obtain ⟨a, rest, rfl, rfl, -⟩ := h₁
    intro x hx
    rw [List.mem_singleton.mp hx]
    exact trivial

end Prompt

/-! ## The upload is prompt -/

/-- The error of a fill that fails. -/
def FillEnd.error? : FillEnd → Option StorageError
  | filled _ | stalled => none
  | failed e => some (.unknown "file read" [e.message])

/-- The error of a source that fails. -/
def SourceEnd.error? : SourceEnd → Option StorageError
  | ended | stalled => none
  | failed e => some (.unknown "file read" [e.message])

/-- The error of one of the fills is that of the source. -/
theorem SourceEnd.error_of_fill {e : SourceEnd} {content : Bytes} {x : FillEnd} {err : StorageError}
    (hx : x ∈ e.fillResults content) (herr : x.error? = some err) : e.error? = some err := by
  -- along the fills: all but the last are filled, and the last one is settled by the ending
  fun_induction SourceEnd.fillResults e content with
  | case1 content hle ih =>
    rcases List.mem_cons.mp hx with rfl | hx
    · cases herr
    · exact ih hx
  | case2 content hlt =>
    rw [List.mem_singleton.mp hx] at herr
    cases e with
    | ended => cases herr
    | failed e => exact herr
    | stalled => cases herr

theorem waitOut_prompt (token : Token) (fault : StorageError → Prop) (pauses : List (List String)) :
    Prompt token fault (waitOut token pauses) := by
  induction pauses with
  | nil => exact prompt_ok ()
  | cons fires pauses ih => exact ih.check.fire fires

theorem pull_prompt (token : Token) (fill : Fill) :
    Prompt token (fun e => fill.result.error? = some e) (pull token fill) := by
  refine Prompt.check ((waitOut_prompt token _ fill.pauses).bind (fun e => rfl) fun _ => ?_)
  refine Prompt.fire fill.fires ?_
  cases hres : fill.result with
  | filled content => exact prompt_ok content
  | failed e => exact prompt_fault rfl
  | stalled => exact .wait

theorem writeChunks_prompt (token : Token) (tx : TxId) (file : Uuid) (fills : List Fill) (written : Written) :
    Prompt token (fun e => ∃ x ∈ fills.map (·.result), x.error? = some e)
      (writeChunks token tx file fills written) := by
  induction fills generalizing written with
  | nil => exact prompt_ok written
  | cons fill rest ih =>
    have hrest : ∀ w, Prompt token (fun e => ∃ x ∈ (fill :: rest).map (·.result), x.error? = some e)
        (writeChunks token tx file rest w) := fun w =>
      (ih w).mono fun e ⟨x, hx, hex⟩ => ⟨x, List.mem_cons_of_mem _ hx, hex⟩
    have hpull := (pull_prompt token fill).mono fun e he =>
      (⟨_, List.mem_cons_self, he⟩ : ∃ x ∈ (fill :: rest).map (·.result), x.error? = some e)
    refine hpull.bind (fun e => rfl) fun content => ?_
    dsimp only
    split
    · exact prompt_ok written
    · refine (race_prompt token _ _).bind (fun e => rfl) fun id => ?_
      dsimp only
      split
      · exact prompt_ok _
      · exact hrest _

/-- **An upload ends at the first thing in its way.** -/
theorem writeFile_prompt (token : Token) (tx : TxId) (source : Source) :
    Prompt token (fun e => source.ending.error? = some e) (writeFile token tx source) := by
  refine (race_prompt token _ _).bind (fun e => rfl) fun file => ?_
  have hchunks := (writeChunks_prompt token tx file source.fills .empty).mono fun e ⟨x, hx, hex⟩ => by
    rw [source.fills_results] at hx
    exact SourceEnd.error_of_fill hx hex
  refine hchunks.bind (fun e => rfl) fun written => ?_
  exact (race_prompt token _ _).bind (fun e => rfl) fun _ => prompt_ok file

/-! ## How far a source has been read -/

/-- An exchange that begins a poll of the source: the token was found not to have fired, so the poll goes on to
read. -/
def Exchange.isPoll : Exchange → Bool
  | ⟨.fired _, false⟩ => true
  | _ => false

/-- The number of polls in a trace. -/
def pollsIn (es : List Exchange) : Nat := es.countP Exchange.isPoll

theorem pollsIn_append (es fs : List Exchange) : pollsIn (es ++ fs) = pollsIn es + pollsIn fs := List.countP_append

/-- The number of polls that a fill takes: the first one, and one after each pause. -/
def Fill.polls (fill : Fill) : Nat := fill.pauses.length + 1

/-- The number of polls that several fills take. -/
def pollsOfFills : List Fill → Nat
  | [] => 0
  | fill :: rest => fill.polls + pollsOfFills rest

/-- The number of polls that a source takes to be read as far as it goes. If it fails, it does so in the last. -/
def Source.polls (source : Source) : Nat := pollsOfFills source.fills

/-- A read of the source has failed like this by the end of the trace. -/
def Source.FailedBy (source : Source) (es : List Exchange) (err : IoError) : Prop :=
  source.ending = .failed err ∧ source.polls ≤ pollsIn es

theorem Source.FailedBy.before {source : Source} {es : List Exchange} {err : IoError} (h : source.FailedBy es err)
    (front : List Exchange) : source.FailedBy (front ++ es) err :=
  ⟨h.1, by rw [pollsIn_append]; exact Nat.le_add_left_of_le h.2⟩

/-- Exchanges that are no polls bring a failure no nearer. -/
theorem Source.FailedBy.after {source : Source} {front es : List Exchange} {err : IoError}
    (h : source.FailedBy (front ++ es) err) (hfront : pollsIn front = 0) : source.FailedBy es err := by
  obtain ⟨hend, hle⟩ := h
  rw [pollsIn_append, hfront, Nat.zero_add] at hle
  exact ⟨hend, hle⟩

/-- The trace has this many polls if everything in it passes, and fewer if something does not. -/
structure Paces (token : Token) (n : Nat) (es : List Exchange) : Prop where
  through : (∀ x ∈ es, x.Passes token) → pollsIn es = n
  short : (∃ x ∈ es, ¬x.Passes token) → pollsIn es < n

/-- So have all runs of a program. -/
def Paced {α : Type} (token : Token) (n : Nat) (p : Program α) : Prop := ∀ es r, p.Ends es r → Paces token n es

section Paced

variable {α β : Type} {token : Token} {n m : Nat}

/-- What passes adds its own polls. -/
theorem Paces.after {es fs : List Exchange} (h : Paces token n fs) (hes : ∀ x ∈ es, x.Passes token) :
    Paces token (pollsIn es + n) (es ++ fs) := by
  refine ⟨fun hpass => ?_, fun ⟨x, hx, hnot⟩ => ?_⟩
  · rw [pollsIn_append, h.through fun x hx => hpass x (List.mem_append_right _ hx)]
  · rw [pollsIn_append]
    rcases List.mem_append.mp hx with hx | hx
    · exact absurd (hes x hx) hnot
    · exact Nat.add_lt_add_left (h.short ⟨x, hx, hnot⟩) _

theorem paced_done (a : α) : Paced token 0 (.done a) := by
  rintro es r ⟨rfl, rfl⟩
  exact ⟨fun _ => rfl, fun ⟨x, hx, _⟩ => absurd hx List.not_mem_nil⟩

theorem Paced.fire {p : Program α} (hp : Paced token n p) (names : List String) :
    Paced token n ((fire names).bind fun _ => p) := by
  intro es r hrun
  obtain ⟨es₁, es₂, u, rfl, h₁, h₂⟩ := ends_bind.mp hrun
  obtain ⟨hpass, hpolls⟩ : (∀ x ∈ es₁, x.Passes token) ∧ pollsIn es₁ = 0 := by
    unfold Program.fire at h₁
    split at h₁
    · obtain ⟨rfl, -⟩ := h₁
      exact ⟨fun x hx => absurd hx List.not_mem_nil, rfl⟩
    · obtain ⟨a, rest, rfl, rfl, -⟩ := h₁
      exact ⟨fun x hx => by rw [List.mem_singleton.mp hx]; exact trivial, rfl⟩
  have h := (hp es₂ r h₂).after hpass
  rwa [hpolls, Nat.zero_add] at h

/-- A look at the token is one poll more, unless it ends the run. -/
theorem Paced.check {p : Program (Except StorageError α)} (hp : Paced token n p) :
    Paced token (n + 1) ((fired token).bind fun b => if b then .done (.error .cancelled) else p) := by
  intro es r hrun
  obtain ⟨es₁, es₂, b, rfl, h₁, h₂⟩ := ends_bind.mp hrun
  obtain rfl := ends_fired.mp h₁
  cases b with
  | true =>
    obtain ⟨rfl, rfl⟩ := h₂
    refine ⟨fun hpass => ?_, fun _ => Nat.succ_pos n⟩
    cases (hpass ⟨.fired token, true⟩ List.mem_cons_self).2
  | false =>
    have hlook : ∀ x ∈ [(⟨.fired token, false⟩ : Exchange)], x.Passes token := by
      intro x hx
      rw [List.mem_singleton.mp hx]
      exact ⟨rfl, rfl⟩
    rw [Nat.add_comm]
    exact (hp es₂ r h₂).after hlook

/-- Programs one after another take the polls of both, if nothing but an exchange ends the first one early. -/
theorem Paced.bind {p : Program (Except StorageError α)}
    {next : Except StorageError α → Program (Except StorageError β)} (hp : Paced token n p)
    (hprompt : Prompt token (fun _ => False) p) (herror : ∀ e, next (.error e) = .done (.error e))
    (hok : ∀ es v, p.Ends es (.ok v) → Paced token m (next (.ok v))) : Paced token (n + m) (p.bind next) := by
  intro es r hrun
  obtain ⟨es₁, es₂, o, rfl, h₁, h₂⟩ := ends_bind.mp hrun
  cases hprompt es₁ o h₁ with
  | @through v hpass =>
    have h := (hok es₁ v h₁ es₂ r h₂).after hpass
    rwa [(hp es₁ _ h₁).through hpass] at h
  | @stopped front x e hes hpass hstops =>
    rw [herror] at h₂
    obtain ⟨rfl, rfl⟩ := h₂
    have hx : x ∈ es₁ := by rw [hes]; exact List.mem_append_right _ List.mem_cons_self
    rw [List.append_nil]
    refine ⟨fun hall => absurd (hall x hx) hstops.not_passes, fun _ => ?_⟩
    exact Nat.lt_add_right m ((hp es₁ _ h₁).short ⟨x, hx, hstops.not_passes⟩)
  | faulted hpass hfault => exact hfault.elim

/-- A call that is raced takes no poll. If it brings nothing, the polls of what was to follow are not made. -/
theorem Paced.race {q : Request} {next : q.Outcome → Program (Except StorageError β)}
    (herror : ∀ e, next (.error e) = .done (.error e)) (hok : ∀ v, Paced token n (next (.ok v))) (hn : 0 < n) :
    Paced token n ((race token q).bind next) := by
  intro es r hrun
  obtain ⟨es₁, es₂, o, rfl, h₁, h₂⟩ := ends_bind.mp hrun
  obtain ⟨answer, rfl, -⟩ := ends_race.mp h₁
  cases race_prompt token (fun _ => False) q _ o h₁ with
  | @through v hpass =>
    have h := (hok v es₂ r h₂).after hpass
    rwa [show pollsIn [⟨.race token q, answer⟩] = 0 from rfl, Nat.zero_add] at h
  | @stopped front x e hes hpass hstops =>
    rw [herror] at h₂
    obtain ⟨rfl, rfl⟩ := h₂
    have hx : x ∈ [(⟨.race token q, answer⟩ : Exchange)] := by
      rw [hes]
      exact List.mem_append_right _ List.mem_cons_self
    exact ⟨fun hall => absurd (hall x hx) hstops.not_passes, fun _ => hn⟩
  | faulted hpass hfault => exact hfault.elim

theorem waitOut_paced (token : Token) (pauses : List (List String)) :
    Paced token pauses.length (waitOut token pauses) := by
  induction pauses with
  | nil => exact paced_done _
  | cons fires pauses ih => exact ih.check.fire fires

theorem pull_paced {fill : Fill} (hfill : fill.result ≠ .stalled) : Paced token fill.polls (pull token fill) := by
  refine Paced.check ((waitOut_paced token fill.pauses).bind (m := 0) (waitOut_prompt token _ _) (fun e => rfl) ?_)
  refine fun _ _ _ => Paced.fire ?_ fill.fires
  cases hresult : fill.result with
  | filled content => exact paced_done _
  | failed e => exact paced_done _
  | stalled => exact absurd hresult hfill

/-- A fill that fails is the last one of an upload, which then takes the polls of that fill. -/
theorem writeChunks_failed_paced {fill : Fill} {err : IoError} (hresult : fill.result = .failed err) (tx : TxId)
    (file : Uuid) (written : Written) : Paced token fill.polls (writeChunks token tx file [fill] written) := by
  have hpulled : Paced token fill.polls (pull token fill) := pull_paced fun h => by cases hresult.symm.trans h
  intro es r hrun
  obtain ⟨es₁, es₂, o, rfl, h₁, h₂⟩ := ends_bind.mp hrun
  obtain ⟨-, ⟨_, -, hfilled⟩ | ⟨e, rfl, -⟩⟩ := pull_ends h₁
  · cases hresult.symm.trans hfilled
  · obtain ⟨rfl, -⟩ := h₂
    rw [List.append_nil]
    exact hpulled es₁ _ h₁

/-- **An upload from a source that fails** takes all the polls of the source before the source fails it, and fewer
if it is stopped before. -/
theorem writeChunks_paced {err : IoError} {content : Bytes} {fills : List Fill} (tx : TxId) (file : Uuid)
    (written : Written) (hfills : fills.map (·.result) = (SourceEnd.failed err).fillResults content) :
    Paced token (pollsOfFills fills) (writeChunks token tx file fills written) ∧ 0 < pollsOfFills fills := by
  induction fills generalizing content written with
  | nil =>
    rw [SourceEnd.fillResults] at hfills
    split at hfills <;> cases hfills
  | cons fill rest ih =>
    rw [List.map_cons] at hfills
    refine ⟨?_, Nat.add_pos_left (Nat.succ_pos _) _⟩
    rw [pollsOfFills]
    cases hresult : fill.result with
    | filled got =>
      rw [hresult] at hfills
      obtain ⟨rfl, ⟨hle, hrest⟩ | ⟨-, hend⟩⟩ := SourceEnd.fillResults_filled hfills
      · -- a whole chunk, so more is to come
        have hlength : (content.take chunkSize).length = chunkSize := List.length_take_of_le hle
        have hprompt : Prompt token (fun _ => False) (pull token fill) :=
          (pull_prompt token fill).mono fun e he => by
            rw [hresult] at he
            cases he
        have hpulled : Paced token fill.polls (pull token fill) :=
          pull_paced fun h => by cases hresult.symm.trans h
        refine hpulled.bind hprompt (fun e => rfl) fun es got hgot => ?_
        obtain ⟨-, ⟨_, heq, hfilled⟩ | ⟨e, he, -⟩⟩ := pull_ends hgot
        · obtain rfl := Except.ok.inj heq
          rw [hresult] at hfilled
          obtain rfl := FillEnd.filled.inj hfilled
          have hnonempty : (content.take chunkSize).isEmpty = false := by
            rw [List.isEmpty_eq_false_iff, ← List.length_pos_iff, hlength]
            exact chunkSize_pos
          simp only [hnonempty, Bool.false_eq_true, if_false]
          refine Paced.race (fun e => rfl) (fun id => ?_) (ih (written.add file 0) hrest).2
          simp only [hlength, Nat.lt_irrefl, if_false]
          exact (ih _ hrest).1
        · cases he
      · cases hend
    | failed e =>
      rw [hresult] at hfills
      obtain ⟨hrest, -⟩ := SourceEnd.fillResults_not_filled hfills fun got h => by cases h
      obtain rfl := List.map_eq_nil_iff.mp hrest
      exact writeChunks_failed_paced hresult tx file written
    | stalled =>
      rw [hresult] at hfills
      cases (SourceEnd.fillResults_not_filled hfills fun got h => by cases h).2

/-- The whole upload takes the polls that its chunks take. -/
theorem writeFile_paced (token : Token) {err : IoError} (tx : TxId) {source : Source}
    (hend : source.ending = .failed err) :
    Paced token source.polls (writeFile token tx source) ∧ 0 < source.polls := by
  have hfills := source.fills_results
  rw [hend] at hfills
  have hchunks (file : Uuid) : Paced token source.polls (writeChunks token tx file source.fills .empty) ∧
      0 < source.polls := writeChunks_paced tx file .empty hfills
  refine ⟨Paced.race (fun e => rfl) (fun file => ?_) (hchunks (.ofNat 0)).2, (hchunks (.ofNat 0)).2⟩
  intro es r hrun
  obtain ⟨es₁, es₂, o, rfl, h₁, h₂⟩ := ends_bind.mp hrun
  obtain ⟨_, -, hended, -⟩ | ⟨e, rfl, -⟩ := writeChunks_ends hfills h₁
  · cases hended
  · obtain ⟨rfl, -⟩ := h₂
    rw [List.append_nil]
    exact (hchunks file).1 es₁ _ h₁

variable {tx : TxId} {source : Source} {es front : List Exchange} {r : Except StorageError Uuid} {err : IoError}

/-- The source has not failed an upload that is stopped, as far as the upload had come. -/
theorem not_failedBy_of_stopped (h : (writeFile token tx source).Ends es r) {x : Exchange} (hes : es = front ++ [x])
    (hx : ¬x.Passes token) : ¬source.FailedBy front err := by
  rintro ⟨hend, hle⟩
  have hshort := ((writeFile_paced token tx hend).1 es r h).short ⟨x, by rw [hes]; simp, hx⟩
  rw [hes, pollsIn_append] at hshort
  exact Nat.not_lt_of_le (Nat.le_add_right_of_le hle) hshort

/-- An upload that its source has failed has gone all the way to the failure. -/
theorem failedBy_of_faulted {e : StorageError} (h : (writeFile token tx source).Ends es r)
    (hpass : ∀ x ∈ es, x.Passes token) (hfault : source.ending.error? = some e) :
    ∃ err, source.FailedBy es err ∧ e = .unknown "file read" [err.message] := by
  cases hend : source.ending with
  | ended =>
    rw [hend] at hfault
    cases hfault
  | stalled =>
    rw [hend] at hfault
    cases hfault
  | failed err =>
    rw [hend] at hfault
    exact ⟨err, ⟨hend, Nat.le_of_eq (((writeFile_paced token tx hend).1 es r h).through hpass).symm⟩,
      (Option.some.inj hfault).symm⟩

end Paced

end ChunkVault
