/-
# ChunkVault.Proofs.Accounting -- the counters account for every run

What is counted in a trace is a list of runs, each with its method and whether it failed (`counts`). A program that
reads is *balanced*: what it counts are the fetches among its calls, in their order (`Balanced`); sequences of
balanced programs are balanced, and so are a reader's operations and the pieces of a stream. Each of the four other
operations counts itself, once, and no fetch (`Operation.counts_eq`).

`metrics_account` puts this together for clients that do many things, one after another or at once, so that their
exchanges come in any order: the counters rise by the number of their calls, and for fetches by the number of those
that were started. Nothing is assumed about the store or the tokens. A fetch that was given up is one that was
started and did not fail, and a fetch that the token refused is none at all.
-/
import Mathlib.Data.List.Perm.Basic
import ChunkVault.Proofs.Deciding
import ChunkVault.Proofs.Latch
import ChunkVault.Proofs.Smooth

namespace ChunkVault

open Program

/-! ## What is counted in a trace -/

/-- The run that an exchange counts, with whether it failed. -/
def Exchange.counted? : Exchange → Option (Method × Bool)
  | ⟨.count method failed, _⟩ => some (method, failed)
  | _ => none

/-- The runs that are counted in a trace. -/
def counts (es : List Exchange) : List (Method × Bool) := es.filterMap Exchange.counted?

theorem counts_append (es fs : List Exchange) : counts (es ++ fs) = counts es ++ counts fs :=
  List.filterMap_append

/-- The run that a call is counted as, if it is a fetch: one that was given up has not failed. -/
def CallRecord.fetchRun? : CallRecord → Option (Method × Bool)
  | ⟨.findChunk _, outcome⟩ => some (.fetchChunk, outcome.any isFailure)
  | _ => none

/-- The fetches among the calls of a trace, as they are counted. -/
def fetchRuns (es : List Exchange) : List (Method × Bool) := (calls es).filterMap CallRecord.fetchRun?

theorem fetchRuns_append (es fs : List Exchange) : fetchRuns (es ++ fs) = fetchRuns es ++ fetchRuns fs := by
  rw [fetchRuns, calls_append]
  exact List.filterMap_append

/-! ## Readers -/

/-- What a program counts are the fetches among its calls. -/
def Balanced {α : Type} (p : Program α) : Prop := ∀ es a, p.Ends es a → counts es = fetchRuns es

section Balanced

variable {α β : Type}

theorem Balanced.done (a : α) : Balanced (.done a) := by
  rintro es b ⟨rfl, -⟩
  rfl

theorem Balanced.bind {p : Program α} {f : α → Program β} (hp : Balanced p) (hf : ∀ a, Balanced (f a)) :
    Balanced (p.bind f) := by
  intro es b h
  obtain ⟨es₁, es₂, a, rfl, h₁, h₂⟩ := ends_bind.mp h
  rw [counts_append, fetchRuns_append, hp es₁ a h₁, hf a es₂ b h₂]

/-- **A fetch is counted if it was started**, and as a failure if it came to one. -/
theorem fetch_balanced (token : Token) (id : Uuid) : Balanced (fetch token id) := by
  rintro es a ⟨race, rest, rfl, h⟩
  cases race with
  | refused =>
    obtain ⟨rfl, -⟩ := h
    rfl
  | abandoned =>
    obtain ⟨_, _, rfl, rfl, -⟩ := h
    rfl
  | finished o =>
    obtain ⟨_, _, rfl, rfl, -⟩ := h
    rfl

end Balanced

namespace Reader

theorem read_balanced (r : Reader) (room : Nat) : Balanced (r.read room) := by
  unfold Reader.read
  split
  · exact .done _
  · split
    · exact .done _
    · split
      · exact .done _
      · split
        · exact .done _
        · unfold fetchAndDeliver
          split
          · exact .done _
          · refine (fetch_balanced _ _).bind fun o => ?_
            split <;> exact .done _

theorem drainWithin_balanced (reads : Nat) (r : Reader) : Balanced (r.drainWithin reads) := by
  induction reads generalizing r with
  | zero => exact .done _
  | succ reads ih =>
    refine (r.read_balanced chunkSize).bind fun answer => ?_
    split
    · split
      · exact .done _
      · exact (ih _).bind fun _ => .done _
    · exact .done _
    · exact .done _

/-- **An operation on a reader** counts the fetches that it starts. -/
theorem operate_balanced (r : Reader) (op : ReaderOp) : Balanced (r.operate op) := by
  cases op with
  | read room => exact (r.read_balanced room).bind fun _ => .done _
  | readToEnd => exact (r.drainWithin_balanced _).bind fun _ => .done _
  | seek offset whence => exact .done _
  | seekNumbered offset whence => exact .done _
  | seekTo target => exact .done _
  | close => exact .done _

/-- So does a stream that is asked for its next piece. -/
theorem Stream.next_balanced (s : Stream) : Balanced s.next := by
  unfold Stream.next
  split
  · exact .done _
  · refine (s.reader.read_balanced s.room).bind fun answer => ?_
    split
    · split <;> exact .done _
    · exact .done _
    · exact .done _

end Reader

/-! ## The four operations -/

/-- The method that an operation is counted under. -/
def Operation.method : Operation → Method
  | save .. => .save
  | «open» .. => .open
  | setMetadata .. => .setMetadata
  | delete _ => .delete

/-- A query that counts no run. -/
def Query.Uncounted : Query → Prop
  | .count .. => False
  | _ => True

theorem counts_of_uncounted {es : List Exchange} (h : ∀ x ∈ es, x.query.Uncounted) : counts es = [] := by
  refine List.filterMap_eq_nil_iff.mpr fun x hx => ?_
  have hquery := h x hx
  obtain ⟨query, answer⟩ := x
  cases query with
  | count method failed => exact hquery.elim
  | _ => rfl

theorem Query.Uploads.uncounted {token : Token} {ending : SourceEnd} {q : Query} (h : q.Uploads token ending) :
    q.Uncounted := by
  cases h with
  | race hq => exact trivial
  | fired => exact trivial
  | wait hstalled => exact trivial
  | fire names => exact trivial

/-- An operation is counted at its end, and counts nothing before. -/
theorem Operation.counted (op : Operation) :
    ∃ body, op.program = Program.counted op.method body ∧ body.Asks Query.Uncounted := by
  cases op with
  | save token source =>
    refine ⟨_, rfl, (Asks.race trivial).bind fun o => ?_⟩
    cases o with
    | error e => exact trivial
    | ok tx =>
      refine ((writeFile_asks token tx source).mono fun _ hq => hq.uncounted).bind fun w => ?_
      cases w with
      | error e => exact (abandon_asks trivial).bind fun _ => trivial
      | ok file =>
        refine ⟨trivial, fun b => ?_⟩
        cases b with
        | true => exact (abandon_asks trivial).bind fun _ => trivial
        | false => exact settle_asks trivial
  | «open» token id =>
    refine ⟨_, rfl, (Asks.race trivial).bind fun o => ?_⟩
    split <;> exact trivial
  | setMetadata id data =>
    refine ⟨_, rfl, (Asks.call trivial).bind fun o => ?_⟩
    split
    · exact trivial
    · split <;> exact trivial
  | delete id =>
    refine ⟨_, rfl, (Asks.call trivial).bind fun o => ?_⟩
    cases o with
    | error e => exact trivial
    | ok tx =>
      refine (removeRows_asks trivial trivial).bind fun w => ?_
      cases w with
      | error e => exact (abandon_asks trivial).bind fun _ => trivial
      | ok u => exact settle_asks trivial

/-- A transaction fetches no chunks. -/
theorem Transacted.fetchRuns {Whole : TxId → List CallRecord → Prop} {es : List Exchange}
    (h : Transacted Whole (calls es)) : fetchRuns es = [] := by
  have hwrites : ∀ {tx : TxId} {c : CallRecord}, c.request.writesTo? = some tx → c.fetchRun? = none := by
    rintro tx ⟨q, outcome⟩ hq
    cases q with
    | findChunk id => cases hq
    | _ => rfl
  refine List.filterMap_eq_nil_iff.mpr fun c hc => ?_
  generalize calls es = l at h hc
  cases h with
  | untried => exact absurd hc List.not_mem_nil
  | @unbegun c' hreq hfail =>
    obtain ⟨q, outcome⟩ := c
    obtain rfl := List.mem_singleton.mp hc
    obtain rfl : q = .begin := hreq
    rfl
  | rolledBack hl o | committed hl _ o =>
    rcases List.mem_cons.mp hc with rfl | hc
    · rfl
    · rcases List.mem_append.mp hc with hc | hc
      · exact hwrites (hl c hc)
      · rw [List.mem_singleton.mp hc]
        rfl

/-- None of the four operations fetches a chunk. -/
theorem Operation.fetchRuns_eq {op : Operation} {es : List Exchange} {r : Except StorageError op.Value}
    (h : op.program.Ends es r) : fetchRuns es = [] := by
  cases op with
  | save token source => exact (save_transacted h).fetchRuns
  | delete id => exact (delete_transacted h).fetchRuns
  | «open» token id =>
    obtain ⟨race, rfl, -⟩ := open_ends.mp h
    cases race <;> rfl
  | setMetadata id data =>
    obtain ⟨o, rfl, -⟩ := setMetadata_ends.mp h
    rfl

/-- **An operation counts itself once**, as a failure if it fails with anything but an end. -/
theorem Operation.counts_eq {op : Operation} {es : List Exchange} {r : Except StorageError op.Value}
    (h : op.program.Ends es r) : counts es = [(op.method, isFailure r)] := by
  obtain ⟨body, hbody, hasks⟩ := op.counted
  rw [hbody] at h
  obtain ⟨es₁, rfl, h₁⟩ := ends_counted.mp h
  rw [counts_append, counts_of_uncounted (hasks.queries h₁)]
  rfl

/-! ## Sessions -/

/-- Something that a client calls and waits for. -/
inductive Job where
  | operation (op : Operation)
  | reader (r : Reader) (op : ReaderOp)
  /-- The next piece of a stream. -/
  | piece (s : Reader.Stream)

namespace Job

/-- What a job answers. -/
@[reducible] def Reply : Job → Type
  | operation op => Except StorageError op.Value
  | reader .. => ReaderReply × Reader
  | piece _ => Reader.Item

/-- The job as a program. -/
def program : (job : Job) → Program job.Reply
  | operation op => op.program
  | reader r op => r.operate op
  | piece s => s.next

/-- The method that a job is counted under as a whole. -/
def method? : Job → Option Method
  | operation op => some op.method
  | reader .. | piece _ => none

/-- The error that a job which is counted as a whole has come to. -/
def error? : (job : Job) → job.Reply → Option StorageError
  | operation _, r => errorOf? r
  | reader .., _ | piece _, _ => none

/-- A job that has come to its end, with what it asked and was answered. -/
structure Run where
  job : Job
  exchanges : List Exchange
  reply : job.Reply
  ends : job.program.Ends exchanges reply

end Job

/-- An error that the counters count. -/
def StorageError.counts (e : StorageError) : Bool := e ≠ .endOfStream

namespace Job.Run

/-- Whether a run has come to an error that is counted. -/
def failed (c : Run) : Bool := (c.job.error? c.reply).any StorageError.counts

/-- The run as it is counted as a whole. -/
def own? (c : Run) : Option (Method × Bool) := c.job.method?.map fun m => (m, c.failed)

end Job.Run

theorem isFailure_eq {α : Type} (r : Except StorageError α) : isFailure r = (errorOf? r).any StorageError.counts := by
  cases r with
  | ok v => rfl
  | error e => exact (decide_not (p := e = .endOfStream)).symm

/-- **What is counted of a job**: the fetches that it started, and the job itself if it is one of the four
operations. -/
theorem Job.Run.counts_eq (c : Run) : counts c.exchanges = fetchRuns c.exchanges ++ c.own?.toList := by
  obtain ⟨job, es, r, h⟩ := c
  cases job with
  | operation op =>
    rw [Operation.fetchRuns_eq h, Operation.counts_eq h, isFailure_eq]
    rfl
  | reader reader op =>
    rw [reader.operate_balanced op es r h]
    exact (List.append_nil _).symm
  | piece s =>
    rw [s.next_balanced es r h]
    exact (List.append_nil _).symm

/-- **What is counted of many jobs**, whatever the order of their exchanges. -/
theorem counts_perm {runs : List Job.Run} {es : List Exchange} (hes : es.Perm (runs.flatMap (·.exchanges))) :
    (counts es).Perm (fetchRuns es ++ runs.filterMap Job.Run.own?) := by
  have hown : runs.filterMap Job.Run.own? = runs.flatMap fun c => c.own?.toList :=
    List.filterMap_eq_flatMap_toList ..
  have hcalls : (fetchRuns es).Perm (runs.flatMap fun c => fetchRuns c.exchanges) := by
    have h := (hes.filterMap Exchange.call?).filterMap CallRecord.fetchRun?
    rwa [List.filterMap_flatMap, List.filterMap_flatMap] at h
  have hcounts : (counts es).Perm (runs.flatMap fun c => counts c.exchanges) := by
    have h := hes.filterMap Exchange.counted?
    rwa [List.filterMap_flatMap] at h
  rw [hown]
  refine hcounts.trans (List.Perm.trans ?_ (hcalls.symm.append_right _))
  simp only [Job.Run.counts_eq]
  exact (List.flatMap_append_perm ..).symm

/-! ## The counters -/

namespace Metrics

/-- Counts several runs. -/
def recordAll (m : Metrics) (l : List (Method × Bool)) : Metrics := l.foldl (fun m x => m.record x.1 x.2) m

/-- The counters rise by the numbers of runs, and of failed runs. -/
theorem recordAll_eq (m : Metrics) (l : List (Method × Bool)) (method : Method) :
    (m.recordAll l).durations method = m.durations method + l.countP (·.1 = method) ∧
      (m.recordAll l).errors method = m.errors method + l.countP fun x => x.1 = method ∧ x.2 := by
  induction l generalizing m with
  | nil => exact ⟨rfl, rfl⟩
  | cons x l ih =>
    obtain ⟨hdurations, herrors⟩ := ih (m.record x.1 x.2)
    obtain ⟨other, failed⟩ := x
    constructor
    · show ((m.record other failed).recordAll l).durations method = _
      rw [hdurations, List.countP_cons]
      by_cases hmethod : method = other
      · subst hmethod
        simp [record]
        omega
      · simp [record, hmethod, Ne.symm hmethod]
    · show ((m.record other failed).recordAll l).errors method = _
      rw [herrors, List.countP_cons]
      by_cases hmethod : method = other
      · subst hmethod
        cases failed
        · simp [record]
        · simp [record]
          omega
      · simp [record, hmethod, Ne.symm hmethod]

/-- Surroundings that keep these counters: a run that is counted is recorded, and nothing else moves them. -/
def KeptBy {ω : Type} (metrics : ω → Metrics) (may : (q : Query) → ω → q.Answer → ω → Prop) : Prop :=
  ∀ q w a w', may q w a w' → metrics w' = (metrics w).recordAll (counts [⟨q, a⟩])

/-- **Along a trace the runs are recorded that are counted in it.** -/
theorem KeptBy.along {ω : Type} {metrics : ω → Metrics} {may : (q : Query) → ω → q.Answer → ω → Prop}
    (hkept : KeptBy metrics may) {w w' : ω} {es : List Exchange} (h : Along may w es w') :
    metrics w' = (metrics w).recordAll (counts es) := by
  induction h with
  | nil w => rfl
  | @cons q a w w₁ w₂ es hmay _ ih =>
    rw [ih, hkept q w a w₁ hmay]
    show _ = (metrics w).recordAll (counts ([⟨q, a⟩] ++ es))
    rw [counts_append]
    exact List.foldl_append.symm

end Metrics

namespace Bench

theorem meddle_metrics (token : Token) (hooks : List Hook) (b : Bench) :
    (b.meddle token hooks).2.metrics = b.metrics := by
  induction hooks generalizing b with
  | nil => rfl
  | cons hook others ih =>
    unfold meddle
    simp only
    split
    · rfl
    · split
      · rfl
      · exact ih (b.fire hook.cancel.toList)

theorem serve_metrics (b : Bench) (q : Request) (failure : Option StorageError) :
    (b.serve q failure).2.metrics = b.metrics := by
  unfold serve
  split
  · split <;> rfl
  · rfl

/-- **A bench keeps its counters**, whatever its hooks do. -/
theorem metrics_kept : Metrics.KeptBy metrics (Answering answer) := by
  rintro q b a b' hanswer
  obtain rfl : (answer q b).2 = b' := congrArg Prod.snd hanswer
  cases q with
  | call q =>
    exact (serve_metrics _ q _).trans (meddle_metrics .own (b.due q.kind) (b.passHooks q.kind))
  | race token q =>
    show (if b.hasFired token then _ else b.attempt token q).2.metrics = b.metrics
    split
    · rfl
    · have hmeddled := meddle_metrics token (b.due q.kind) (b.passHooks q.kind)
      unfold attempt
      split
      · next heq => rwa [heq] at hmeddled
      · next heq =>
        rw [heq] at hmeddled
        exact (serve_metrics _ q _).trans hmeddled
  | fired token => rfl
  | wait token => rfl
  | fire names => rfl
  | count method failed => rfl

end Bench

/-! ## The counters account for every run -/

/-- The error that a call has come to. -/
def CallRecord.error? (c : CallRecord) : Option StorageError := c.outcome.bind errorOf?

theorem CallRecord.fetchRun?_eq (c : CallRecord) : c.fetchRun? =
    if c.request.kind = .findChunk then some (.fetchChunk, c.error?.any StorageError.counts) else none := by
  obtain ⟨q, outcome⟩ := c
  cases q with
  | findChunk id =>
    cases outcome with
    | none => rfl
    | some o => exact congrArg (fun failed => some (Method.fetchChunk, failed)) (isFailure_eq o)
  | _ => rfl

/-- The fetches are counted under one method, and all the other runs under another one. -/
theorem countP_counts {runs : List Job.Run} {es : List Exchange} (hes : es.Perm (runs.flatMap (·.exchanges)))
    (method : Method) (p : Bool → Bool) :
    (counts es).countP (fun x => x.1 = method ∧ p x.2) = if method = .fetchChunk
      then (calls es).countP fun c => c.request.kind = .findChunk ∧ p (c.error?.any StorageError.counts)
      else runs.countP fun c => c.job.method? = some method ∧ p c.failed := by
  rw [(counts_perm hes).countP_eq, List.countP_append, fetchRuns, List.countP_filterMap, List.countP_filterMap]
  have hfetches : ∀ c : CallRecord, (c.fetchRun?.map fun x => decide (x.1 = method ∧ p x.2)).getD false =
      decide (method = .fetchChunk ∧ c.request.kind = .findChunk ∧ p (c.error?.any StorageError.counts)) := by
    intro c
    rw [c.fetchRun?_eq]
    by_cases hkind : c.request.kind = .findChunk
    · simp [hkind, @eq_comm _ method .fetchChunk]
    · simp [hkind]
  have hown : ∀ c : Job.Run, (c.own?.map fun x => decide (x.1 = method ∧ p x.2)).getD false =
      decide (c.job.method? = some method ∧ p c.failed) := by
    intro c
    unfold Job.Run.own?
    cases c.job.method? <;> simp
  simp only [hfetches, hown]
  split
  · next hmethod =>
    -- no job is counted as a fetch
    have hnone : runs.countP (fun c => c.job.method? = some method ∧ p c.failed) = 0 := by
      refine List.countP_eq_zero.mpr fun c _ => ?_
      have hne : c.job.method? ≠ some method := by
        rw [hmethod]
        cases c.job with
        | operation op => cases op <;> exact nofun
        | reader r op => exact nofun
        | piece s => exact nofun
      simp [hne]
    rw [hnone]
    simp [hmethod]
  · next hmethod => simp [hmethod]

/-- **The counters account for every run.** Clients have done many jobs, and the exchanges of these have come in
some order; the store has answered as it liked, and tokens have fired at any time. The counters of each of the four
operations have risen by the number of its calls, and by the number of those that came to an error other than an
end. The counters of the fetches have risen by the number of chunks whose look-up was started, given up or not, and by
the number of those look-ups that came to such an error. -/
theorem metrics_account {ω : Type} {metrics : ω → Metrics} {may : (q : Query) → ω → q.Answer → ω → Prop}
    (hkept : Metrics.KeptBy metrics may) {runs : List Job.Run} {es : List Exchange}
    (hes : es.Perm (runs.flatMap (·.exchanges))) {w w' : ω} (h : Along may w es w') :
    (∀ method ≠ Method.fetchChunk,
      (metrics w').durations method =
        (metrics w).durations method + runs.countP (fun c => c.job.method? = some method) ∧
      (metrics w').errors method =
        (metrics w).errors method + runs.countP fun c => c.job.method? = some method ∧ c.failed) ∧
    (metrics w').durations .fetchChunk =
      (metrics w).durations .fetchChunk + (calls es).countP (fun c => c.request.kind = .findChunk) ∧
    (metrics w').errors .fetchChunk = (metrics w).errors .fetchChunk +
      (calls es).countP fun c => c.request.kind = .findChunk ∧ c.error?.any StorageError.counts := by
  have hall := fun method => countP_counts hes method fun _ => true
  have hfailed := fun method => countP_counts hes method fun failed => failed
  simp only [and_true] at hall
  rw [hkept.along h]
  refine ⟨fun method hmethod => ?_, ?_, ?_⟩
  · obtain ⟨hdurations, herrors⟩ := (metrics w).recordAll_eq (counts es) method
    rw [hdurations, herrors, hall, hfailed, if_neg hmethod, if_neg hmethod]
    exact ⟨rfl, rfl⟩
  · rw [((metrics w).recordAll_eq (counts es) .fetchChunk).1, hall]
    rfl
  · rw [((metrics w).recordAll_eq (counts es) .fetchChunk).2, hfailed]
    rfl

/-- On a bench around an empty store a file is opened that is not there, and meanwhile a reader looks for a chunk that
is not there either, and is then refused a second fetch: one failed `open`, and one fetch that did not fail. -/
theorem metrics_account_missing_file :
    let b : Bench := { Bench.new (.memory .empty) with fired := ["t"] }
    let missing : Job.Run := ⟨.operation (.open .own (.ofNat 1)),
      [⟨.race .own (.findFile (.ofNat 1)), .finished (.ok none)⟩, ⟨.count .open true, ()⟩], .error .notFound,
      ⟨_, _, rfl, _, _, rfl, rfl, rfl⟩⟩
    let r : Reader := .new .own 1 [.ofNat 2]
    let read : Job.Run := ⟨.reader r (.read 1),
      [⟨.race .own (.findChunk (.ofNat 2)), .finished (.ok none)⟩, ⟨.count .fetchChunk false, ()⟩],
      (.read (.error .notFound), { r with state := .failed .notFound }), ⟨_, _, rfl, _, _, rfl, rfl, rfl⟩⟩
    let late : Reader := .new (.shared "t") 1 [.ofNat 2]
    let refused : Job.Run := ⟨.reader late (.read 1), [⟨.race (.shared "t") (.findChunk (.ofNat 2)), .refused⟩],
      (.read (.error .cancelled), { late with state := .failed .cancelled }), ⟨_, _, rfl, rfl, rfl⟩⟩
    let es : List Exchange :=
      [⟨.race .own (.findFile (.ofNat 1)), .finished (.ok none)⟩,
        ⟨.race .own (.findChunk (.ofNat 2)), .finished (.ok none)⟩, ⟨.count .open true, ()⟩,
        ⟨.race (.shared "t") (.findChunk (.ofNat 2)), .refused⟩, ⟨.count .fetchChunk false, ()⟩]
    ∃ b', es.Perm ([missing, read, refused].flatMap (·.exchanges)) ∧ Along (Answering Bench.answer) b es b' ∧
      b'.metrics.durations .open = 1 ∧ b'.metrics.errors .open = 1 ∧
      b'.metrics.durations .fetchChunk = 1 ∧ b'.metrics.errors .fetchChunk = 0 := by
  intro b missing r read late refused es
  have hperm : es.Perm ([missing, read, refused].flatMap (·.exchanges)) :=
    (List.Perm.swap _ _ _).cons _ |>.trans ((List.Perm.swap _ _ _).cons _ |>.cons _ |>.cons _)
  have halong : ∃ b', Along (Answering Bench.answer) b es b' :=
    ⟨_, .cons rfl (.cons rfl (.cons rfl (.cons rfl (.cons rfl (.nil _)))))⟩
  obtain ⟨b', halong⟩ := halong
  obtain ⟨hoperations, hdurations, herrors⟩ := metrics_account Bench.metrics_kept hperm halong
  obtain ⟨hopened, hmissed⟩ := hoperations .open nofun
  exact ⟨b', hperm, halong, hopened, hmissed, hdurations, herrors⟩

end ChunkVault
