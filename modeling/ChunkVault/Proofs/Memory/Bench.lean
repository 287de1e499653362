/-
# ChunkVault.Proofs.Memory.Bench -- a bench is one of the surroundings

Whatever the hooks of a bench do to the calls, and whatever tokens fire, a bench around a store in memory
answers every query in a way that `Answers` allows, even if no reply can be lost. So every run on it is a
run in those surroundings.
-/
import ChunkVault.Proofs.Memory.Surroundings

namespace ChunkVault

open Program Memory

namespace Bench

variable {lost : Request → Prop}

/-- The bench holds this store in memory. -/
def Holds (b : Bench) (s : Store) : Prop := b.backend = .memory s

/-- The store that the bench holds, if it holds one in memory. -/
def store? (b : Bench) : Option Store :=
  match b.backend with
  | .memory s => some s
  | .sql _ => none

theorem Holds.store? {b : Bench} {s : Store} (h : b.Holds s) : b.store? = some s := by
  unfold Holds at h
  rw [Bench.store?, h]

theorem meddle_backend (token : Token) (hooks : List Hook) (b : Bench) :
    (b.meddle token hooks).2.backend = b.backend := by
  -- along the hooks: one either ends the call or leaves it to the next, with some tokens fired
  induction hooks generalizing b with
  | nil => rfl
  | cons hook others ih =>
    unfold meddle
    simp only
    split
    · rfl
    · split
      · rfl
      · exact ih (b.fire hook.cancel.toList)

/-- A call that reaches the store is served, or fails and leaves what a failed call leaves. -/
theorem serve_settles {b : Bench} {s : Store} (hb : b.Holds s) (q : Request)
    (failure : Option StorageError) :
    ∃ s', (b.serve q failure).2.Holds s' ∧ Store.Settles lost q s (b.serve q failure).1 s' := by
  cases failure with
  | none =>
    refine ⟨(s.serve q).2, ?_, .inl ⟨?_, rfl⟩⟩
    · show (b.backend.serve q).2.1 = .memory (s.serve q).2
      rw [hb]
      rfl
    · show (b.backend.serve q).1 = (s.serve q).1
      rw [hb]
      rfl
  | some e =>
    cases hc : q.closes? with
    | none =>
      have hserve : b.serve q (some e) = (.error e, b.noteCall q (some (.error e))) := by
        simp only [serve, hc]
      rw [hserve]
      refine ⟨s, hb, .inr ⟨⟨e, rfl⟩, .inl ?_⟩⟩
      simp only [Store.afterFailure, hc]
    | some tx =>
      have hserve : b.serve q (some e) = (.error e,
          { b.noteCall q (some (.error e)) with backend := b.backend.discard tx }) := by
        simp only [serve, hc]
        rfl
      rw [hserve]
      refine ⟨s.discard tx, congrArg (Backend.discard tx) hb, .inr ⟨⟨e, rfl⟩, .inl ?_⟩⟩
      simp only [Store.afterFailure, hc]

theorem perform_settles {b : Bench} {s : Store} (hb : b.Holds s) (q : Request) :
    ∃ s', (b.perform q).2.Holds s' ∧ Store.Settles lost q s (b.perform q).1 s' :=
  serve_settles ((meddle_backend .own (b.due q.kind) (b.passHooks q.kind)).trans hb) q _

theorem attempt_answers {b : Bench} {s : Store} (hb : b.Holds s) (token : Token) (q : Request) :
    ∃ s', (b.attempt token q).2.Holds s' ∧ Store.Answers lost (.race token q) s (b.attempt token q).1 s' := by
  have hmeddled := (meddle_backend token (b.due q.kind) (b.passHooks q.kind)).trans hb
  unfold attempt
  cases hm : (b.passHooks q.kind).meddle token (b.due q.kind) with
  | mk meddling b' =>
    rw [hm] at hmeddled
    cases meddling with
    | givenUp => exact ⟨s, hmeddled, .inl rfl⟩
    | done => exact serve_settles hmeddled q _
    | failed e => exact serve_settles hmeddled q _

/-- **A bench answers as its surroundings may**, whatever its hooks do. -/
theorem answer_answers {b : Bench} {s : Store} (hb : b.Holds s) (q : Query) :
    ∃ s', (Bench.answer q b).2.Holds s' ∧ Store.Answers lost q s (Bench.answer q b).1 s' := by
  cases q with
  | call q => exact perform_settles hb q
  | race token q =>
    unfold Bench.answer
    simp only
    split
    · exact ⟨s, hb, rfl⟩
    · exact attempt_answers hb token q
  | fired token => exact ⟨s, hb, rfl⟩
  | wait token => exact ⟨s, hb, rfl⟩
  | fire names => exact ⟨s, hb, rfl⟩
  | count method failed => exact ⟨s, hb, rfl⟩

/-- A run on a bench is a run in the surroundings of its store. -/
theorem along_answers {b b' : Bench} {s : Store} {es : List Exchange} (hb : b.Holds s)
    (h : Along (Answering Bench.answer) b es b') :
    ∃ s', b'.Holds s' ∧ Along (Store.Answers lost) s es s' := by
  -- along the run, with the store that the bench holds at each point
  induction h generalizing s with
  | nil b => exact ⟨s, hb, .nil s⟩
  | @cons q a b₀ b₁ b₂ es hanswer _ ih =>
    obtain ⟨s₁, hb₁, ha⟩ := answer_answers hb q
    rw [hanswer] at hb₁ ha
    obtain ⟨s₂, hb₂, hs⟩ := ih hb₁
    exact ⟨s₂, hb₂, .cons ha hs⟩

/-- **What a run on a bench comes to**, as a run in the surroundings of its store. -/
theorem run_answers {α : Type} (lost : Request → Prop) {b : Bench} {s : Store} (hb : b.Holds s) (p : Program α) :
    ∃ es s', p.Ends es (b.run p).1 ∧ (b.run p).2.Holds s' ∧ Along (Store.Answers lost) s es s' := by
  obtain ⟨es, hends, halong⟩ := run_ends Bench.answer p b
  obtain ⟨s', hb', hs⟩ := along_answers hb halong
  exact ⟨es, s', hends, hb', hs⟩

end Bench
end ChunkVault
