/-
# ChunkVault.Proofs.Memory.BrokenSource -- a source that fails is not kept

A source may itself be a reader of a storage engine, and report the errors of that engine as failed reads. A save
whose source fails like that keeps nothing: it is an error, it does not commit, and the tables of a store in
memory are what they were (`save_broken_source`).

There is one exception. A cancellation is reported as a read that was interrupted, and a fill goes on after such
a read as if it had never been made (`save_uninterrupted`). So where a source breaks off because it was
cancelled, and then has no more to give, what it gave before is kept as a whole file
(`save_keeps_front_of_cancelled`).
-/
import ChunkVault.Proofs.Memory.Atomicity

namespace ChunkVault

/-! ## Reads that were interrupted -/

namespace SourceEvent

/-- A read that was only interrupted. -/
def isInterruption : SourceEvent → Bool
  | .fail error => error.kind = .interrupted
  | _ => false

/-- Whether a source goes on after an event. -/
def GoesOn : SourceEvent → Prop
  | .bytes _ | .cancel _ | .pause => True
  | .fail error => error.kind = .interrupted
  | .stall _ | .nothing => False

end SourceEvent

namespace Source

/-- The source without the reads that were interrupted. -/
def uninterrupted (source : Source) : Source := source.filter (!·.isInterruption)

theorem uninterrupted_append (front rest : Source) :
    uninterrupted (front ++ rest) = front.uninterrupted ++ rest.uninterrupted :=
  List.filter_append front rest

theorem uninterrupted_cons_of_isInterruption {event : SourceEvent} (h : event.isInterruption = true) (rest : Source) :
    uninterrupted (event :: rest) = uninterrupted rest :=
  List.filter_cons_of_neg (by rw [h]; exact Bool.false_ne_true)

theorem uninterrupted_cons {event : SourceEvent} (h : event.isInterruption = false) (rest : Source) :
    uninterrupted (event :: rest) = event :: uninterrupted rest :=
  List.filter_cons_of_pos (by rw [h]; rfl)

end Source

open Program Source

/-- A fill that has room for nothing takes nothing. -/
theorem Fill.take_zero (got : Bytes) (fires : List String) (pauses : List (List String)) (source : Source) :
    take 0 got fires pauses source = (⟨pauses, fires, .filled got⟩, source) := by
  cases source with
  | nil => rw [take]
  | cons event rest =>
    unfold take
    exact if_pos rfl

/-- **A fill does not notice** reads that were interrupted. -/
theorem Fill.take_uninterrupted (room : Nat) (got : Bytes) (fires : List String) (pauses : List (List String))
    (source : Source) :
    take room got fires pauses source.uninterrupted =
      ((take room got fires pauses source).1, (take room got fires pauses source).2.uninterrupted) := by
  fun_induction take room got fires pauses source with
  | case1 room got fires pauses => rw [uninterrupted, List.filter_nil, take]
  | case2 got fires pauses event rest => exact take_zero ..
  | case3 room got fires pauses rest hroom content hle ih =>
    rw [uninterrupted_cons rfl, take, if_neg hroom]
    simp only [if_pos hle]
    exact ih
  | case4 room got fires pauses rest hroom content hgt =>
    rw [uninterrupted_cons rfl, take, if_neg hroom, uninterrupted_cons rfl]
    simp only [if_neg hgt]
  | case5 room got fires pauses rest hroom e hint ih =>
    have hevent : (SourceEvent.fail e).isInterruption = true := decide_eq_true hint
    rw [uninterrupted_cons_of_isInterruption hevent]
    exact ih
  | case6 room got fires pauses rest hroom e hint =>
    have hevent : (SourceEvent.fail e).isInterruption = false := decide_eq_false hint
    rw [uninterrupted_cons hevent, take, if_neg hroom]
    simp only [if_neg hint]
  | case7 room got fires pauses rest hroom token ih =>
    rw [uninterrupted_cons rfl, take, if_neg hroom]
    exact ih
  | case8 room got fires pauses rest hroom token =>
    rw [uninterrupted_cons rfl, take, if_neg hroom]
  | case9 room got fires pauses rest hroom ih =>
    rw [uninterrupted_cons rfl, take, if_neg hroom]
    exact ih
  | case10 room got fires pauses rest hroom =>
    rw [uninterrupted_cons rfl, take, if_neg hroom]

namespace Source

theorem fillsUpTo_uninterrupted (bound : Nat) (source : Source) :
    fillsUpTo bound source.uninterrupted = fillsUpTo bound source := by
  induction bound generalizing source with
  | zero => rfl
  | succ bound ih =>
    rw [fillsUpTo, fillsUpTo, Fill.take_uninterrupted]
    simp only [ih]

theorem fillBound_uninterrupted (source : Source) : source.uninterrupted.fillBound = source.fillBound := by
  unfold fillBound uninterrupted
  rw [List.foldl_filter]
  -- a read that was interrupted counts for nothing
  congr 1
  funext n event
  cases event with
  | fail e => exact ite_self n
  | _ => rfl

/-- **The fills of a source** are those without its interrupted reads. -/
theorem fills_uninterrupted (source : Source) : source.uninterrupted.fills = source.fills := by
  rw [fills, fills, fillBound_uninterrupted, fillsUpTo_uninterrupted]

end Source

/-- **A save does not notice** reads that were interrupted. -/
theorem Storage.save_uninterrupted (token : Token) (source : Source) :
    save token source.uninterrupted = save token source := by
  unfold save writeFile
  rw [fills_uninterrupted]

/-! ## Sources that go on -/

namespace Source

/-- A source that goes on after each of its events. -/
def Flows (source : Source) : Prop := ∀ event ∈ source, event.GoesOn

theorem ending_append {front : Source} (h : front.Flows) (rest : Source) : ending (front ++ rest) = ending rest := by
  induction front with
  | nil => rfl
  | cons event front ih =>
    have hrest := ih fun event' hmem => h event' (List.mem_cons_of_mem event hmem)
    have hevent := h event List.mem_cons_self
    cases event with
    | bytes content => exact hrest
    | fail e =>
      show (delivery (.fail e :: (front ++ rest))).2 = _
      rw [delivery_interrupted hevent]
      exact hrest
    | cancel token => exact hrest
    | stall token => exact hevent.elim
    | pause => exact hrest
    | nothing => exact hevent.elim

/-- A read that fails, other than by being interrupted, is how a source ends. -/
theorem ending_fail {e : IoError} (h : e.kind ≠ .interrupted) (rest : Source) :
    ending (.fail e :: rest) = .failed e := by
  rw [ending, delivery_failed h]

end Source

/-- Of the errors of a storage engine only a cancellation is reported as an interruption. -/
theorem toIo_kind_ne {e : StorageError} (h : e ≠ .cancelled) : e.toIo.kind ≠ .interrupted := by
  cases e with
  | cancelled => exact absurd rfl h
  | _ => exact nofun

/-! ## Saves -/

/-- **A save whose source fails keeps nothing**, if the failure is other than an interruption: it is an error, and
makes no call that could change what is committed. -/
theorem save_broken {token : Token} {front rest : Source} {e : IoError} (hfront : front.Flows)
    (he : e.kind ≠ .interrupted) {es : List Exchange} {r : Except StorageError Uuid}
    (hrun : (Storage.save token (front ++ .fail e :: rest)).Ends es r) :
    (∃ e', r = .error e') ∧ ∀ c ∈ calls es, c.request.publishes = false := by
  have hend : (front ++ .fail e :: rest).ending = .failed e := by
    rw [ending_append hfront, ending_fail he]
  rcases (save_ends hrun).publishes_or_commits with hkept | ⟨tx, file, rows, o, hended, -⟩
  · exact hkept
  · rw [hend] at hended
    cases hended

namespace Memory.Store

/-- **A source that fails is not kept**, whatever it gave before, and whatever would come after. The failure is
that of a storage engine, and other than a cancellation: the save is an error, makes no call to any store that
could change what is committed there, and leaves the tables of a store in memory as they are. A cancellation is
passed over: the save is the same as without it. -/
theorem save_broken_source {front : Source} (hfront : front.Flows) (rest : Source) (token : Token)
    (e : StorageError) :
    (e ≠ .cancelled → ∀ es r, (Storage.save token (front ++ .fail e.toIo :: rest)).Ends es r →
      (∃ e', r = .error e') ∧ (∀ c ∈ calls es, c.request.publishes = false) ∧
      ∀ (lost : Request → Prop) s s', Along (AnswersAmidst lost) s es s' → s'.tables = s.tables) ∧
    (e = .cancelled →
      Storage.save token (front ++ .fail e.toIo :: rest) = Storage.save token (front ++ rest)) := by
  refine ⟨fun he es r hrun => ?_, ?_⟩
  · obtain ⟨herror, hpublishes⟩ := save_broken hfront (toIo_kind_ne he) hrun
    exact ⟨herror, hpublishes, fun lost s s' hstore => (along_calls hstore).tables_eq hpublishes⟩
  · rintro rfl
    have hsame : uninterrupted (front ++ .fail StorageError.cancelled.toIo :: rest) =
        uninterrupted (front ++ rest) := by
      rw [uninterrupted_append, uninterrupted_append, uninterrupted_cons_of_isInterruption rfl]
    rw [← Storage.save_uninterrupted, hsame, Storage.save_uninterrupted]

/-- A source that gives one byte and then fails, because its own file has gone: on a bench whose store is empty,
the save is an error, and the store is as empty as before. -/
theorem save_broken_source_not_found :
    let b := (Bench.new (.memory .empty)).run (Storage.save .own ([.bytes [97]] ++ [.fail StorageError.notFound.toIo]))
    b.1 = .error (.unknown "file read" ["not found"]) ∧ ∃ s', b.2.Holds s' ∧ s'.tables = empty.tables := by
  intro b
  obtain ⟨es, s', hends, hheld, hstore⟩ :=
    Bench.run_answers (fun _ => False) (b := Bench.new (.memory .empty)) rfl
      (Storage.save .own ([.bytes [97]] ++ [.fail StorageError.notFound.toIo]))
  have hflows : Flows [.bytes [97]] := by
    intro event hmem
    rw [List.mem_singleton.mp hmem]
    exact trivial
  obtain ⟨-, -, htables⟩ := (save_broken_source hflows [] .own .notFound).1 nofun es _ hends
  exact ⟨rfl, s', hheld, htables _ _ _ (hstore.mono fun _ _ _ _ => Answers.amidst)⟩

/-- A source that gives one byte and then fails, because it was cancelled: the save succeeds, and keeps a file of
one byte. -/
theorem save_keeps_front_of_cancelled :
    let b := (Bench.new (.memory .empty)).run (Storage.save .own [.bytes [97], .fail StorageError.cancelled.toIo])
    b.1 = .ok (Uuid.issue 0) ∧ ∃ s', b.2.Holds s' ∧ s'.tables.files.map (·.size) = [1] ∧
      s'.tables.chunks.map (·.bytes) = [[97]] := by
  intro b
  exact ⟨rfl, _, rfl, rfl, rfl⟩

end Memory.Store
end ChunkVault
