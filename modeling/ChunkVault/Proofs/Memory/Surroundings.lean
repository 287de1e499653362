/-
# ChunkVault.Proofs.Memory.Surroundings -- all that may happen around a store in memory

`Answers` says how a query may be answered over a store in memory when nothing is known of tokens and
faults: a call may be refused, given up before or after the store has served it, fail before the store
sees it, or be served; a token may be found to have fired or not. A call whose reply can be lost may also be
served and fail for its caller all the same. It allows more than any schedule of cancellations and faults
can bring about, so what is proved of it holds under all of them.

What a run does to a store depends on its calls alone (`along_calls`), also while others look at the
store in between. What one call leaves untouched (`Frame`) all of them leave untouched, however they ended.
-/
import ChunkVault.Proofs.Memory.Serving

namespace ChunkVault

/-- Whether a call only looks up a committed row. -/
def Request.looks : Request → Bool
  | findFile _ | findChunk _ => true
  | _ => false

namespace Memory.Store

open Program

/-! ## Answers -/

variable {lost : Request → Prop}

/-- A call that came to this outcome: it was served, or it failed before the store saw it, or it failed
after the store had served it, which is what a call comes to whose reply is lost. -/
def Settles (lost : Request → Prop) (q : Request) (s : Store) (o : q.Outcome) (s' : Store) : Prop :=
  o = (s.serve q).1 ∧ s' = (s.serve q).2 ∨
    (∃ e, o = .error e) ∧ (s' = s.afterFailure q ∨ lost q ∧ s' = (s.serve q).2)

/-- How a query may be answered, whatever tokens fire and whatever fails, if these are the calls whose reply
can be lost. -/
def Answers (lost : Request → Prop) : (q : Query) → Store → q.Answer → Store → Prop
  | .call q, s, o, s' => Settles lost q s o s'
  | .race _ _, s, .refused, s' => s' = s
  | .race _ q, s, .abandoned, s' => s' = s ∨ s' = (s.serve q).2
  | .race _ q, s, .finished o, s' => Settles lost q s o s'
  | .fired _, s, _, s' => s' = s
  | .wait _, s, _, s' => s' = s
  | .fire _, s, _, s' => s' = s
  | .count .., s, _, s' => s' = s

/-- What becomes of a store by a call, as far as is known from how the call ended. -/
def Made (lost : Request → Prop) (c : CallRecord) (s s' : Store) : Prop :=
  match c.outcome with
  | some o => Settles lost c.request s o s'
  | none => s' = s ∨ s' = (s.serve c.request).2

/-- A call leaves the store as it is, or as serving the call leaves it, or as a failure does. -/
theorem Made.cases {c : CallRecord} {s s' : Store} (h : Made lost c s s') :
    s' = s ∨ s' = (s.serve c.request).2 ∨ s' = s.afterFailure c.request := by
  unfold Made at h
  split at h
  · rcases h with ⟨-, rfl⟩ | ⟨-, rfl | ⟨-, rfl⟩⟩
    · exact .inr (.inl rfl)
    · exact .inr (.inr rfl)
    · exact .inr (.inl rfl)
  · rcases h with rfl | rfl
    · exact .inl rfl
    · exact .inr (.inl rfl)

/-- What becomes of a store that others look at: point queries are served, as many as there are. -/
inductive Looked (s : Store) : Store → Prop
  | refl : Looked s s
  | served {s' : Store} (h : Looked s s') {q : Request} (hq : q.looks = true) :
      Looked s (s'.serve q).2

theorem Looked.trans {s s' s'' : Store} (h : Looked s s') (h' : Looked s' s'') : Looked s s'' := by
  induction h' with
  | refl => exact h
  | served _ hq ih => exact ih.served hq

/-- Looking at a store changes nothing but the number of its fetches. -/
theorem Looked.exists_fetches {s s' : Store} (h : Looked s s') : ∃ n, s' = { s with fetches := n } := by
  induction h with
  | refl => exact ⟨s.fetches, rfl⟩
  | @served s' _ q hq ih =>
    obtain ⟨n, rfl⟩ := ih
    cases q with
    | findFile id => exact ⟨n, rfl⟩
    | findChunk id => exact ⟨n + 1, by rw [serve_findChunk]⟩
    | _ => cases hq

/-- How a query may be answered while others look at the store in between. -/
def AnswersAmidst (lost : Request → Prop) (q : Query) (s : Store) (a : q.Answer) (s' : Store) : Prop :=
  ∃ s₀, Looked s s₀ ∧ Answers lost q s₀ a s'

/-- Nobody has to look. -/
theorem Answers.amidst {q : Query} {s s' : Store} {a : q.Answer} (h : Answers lost q s a s') :
    AnswersAmidst lost q s a s' :=
  ⟨s, .refl, h⟩

/-- What becomes of a store by several calls, with others looking at it in between. -/
def Moves (lost : Request → Prop) : List CallRecord → Store → Store → Prop
  | [], s, s' => Looked s s'
  | c :: l, s, s'' => ∃ s₀ s', Looked s s₀ ∧ Made lost c s₀ s' ∧ Moves lost l s' s''

theorem Looked.moves {l : List CallRecord} {s s' s'' : Store} (h : Looked s s')
    (hl : Moves lost l s' s'') : Moves lost l s s'' := by
  cases l with
  | nil => exact h.trans hl
  | cons c l =>
    obtain ⟨s₀, s₁, h₀, h₁, hl⟩ := hl
    exact ⟨s₀, s₁, h.trans h₀, h₁, hl⟩

theorem Made.moves {c : CallRecord} {s s' : Store} (h : Made lost c s s') : Moves lost [c] s s' :=
  ⟨s, s', .refl, h, .refl⟩

theorem moves_append {l m : List CallRecord} {s s'' : Store} :
    Moves lost (l ++ m) s s'' ↔ ∃ s', Moves lost l s s' ∧ Moves lost m s' s'' := by
  -- along the first calls; the looks after the last of them are looks before the next call
  induction l generalizing s with
  | nil =>
    constructor
    · intro h
      exact ⟨s, .refl, h⟩
    · rintro ⟨s', h, h'⟩
      exact h.moves h'
  | cons c l ih =>
    constructor
    · rintro ⟨s₀, s₁, h₀, h₁, h⟩
      obtain ⟨s₂, h₂, h₃⟩ := ih.mp h
      exact ⟨s₂, ⟨s₀, s₁, h₀, h₁, h₂⟩, h₃⟩
    · rintro ⟨s₂, ⟨s₀, s₁, h₀, h₁, h₂⟩, h₃⟩
      exact ⟨s₀, s₁, h₀, h₁, ih.mpr ⟨s₂, h₂, h₃⟩⟩

/-- An exchange changes the store by the call that it stands for, if it stands for one. -/
theorem Answers.made_cases {x : Exchange} {s s' : Store} (h : Answers lost x.query s x.answer s') :
    x.call? = none ∧ s' = s ∨ ∃ c, x.call? = some c ∧ Made lost c s s' := by
  obtain ⟨query, answer⟩ := x
  cases query with
  | call q => exact .inr ⟨_, rfl, h⟩
  | race token q =>
    cases answer with
    | refused => exact .inl ⟨rfl, h⟩
    | abandoned => exact .inr ⟨_, rfl, h⟩
    | finished o => exact .inr ⟨_, rfl, h⟩
  | fired token => exact .inl ⟨rfl, h⟩
  | wait token => exact .inl ⟨rfl, h⟩
  | fire names => exact .inl ⟨rfl, h⟩
  | count method failed => exact .inl ⟨rfl, h⟩

theorem Answers.moves {x : Exchange} {s s' : Store} (h : Answers lost x.query s x.answer s') :
    Moves lost x.call?.toList s s' := by
  rcases Answers.made_cases h with ⟨hcall, rfl⟩ | ⟨c, hcall, hmade⟩
  · rw [hcall]
    exact Looked.refl
  · rw [hcall]
    exact hmade.moves

/-- **A run moves the store by its calls.** -/
theorem along_calls {es : List Exchange} {s s' : Store} (h : Along (AnswersAmidst lost) s es s') :
    Moves lost (calls es) s s' := by
  induction h with
  | nil => exact .refl
  | cons h _ ih =>
    obtain ⟨s₀, h₀, h⟩ := h
    rw [calls_cons]
    exact h₀.moves (moves_append.mpr ⟨_, Answers.moves h, ih⟩)

/-! ## What calls leave untouched -/

theorem Made.frame {c : CallRecord} {s s' : Store} (h : Made lost c s s') : Frame c.request s s' := by
  rcases h.cases with rfl | rfl | rfl
  · exact .refl _ _
  · exact .serve _ _
  · exact .afterFailure _ _

theorem Looked.frame {s s' : Store} (h : Looked s s') (q : Request) : Frame q s s' := by
  obtain ⟨n, rfl⟩ := h.exists_fetches
  exact .of_active rfl rfl (fun _ => rfl) rfl (Nat.le_refl _)

/-- What every call and every look keeps, several calls keep. -/
theorem Moves.invariant {I : Store → Prop} {l : List CallRecord} {s s' : Store} (h : Moves lost l s s')
    (look : ∀ s s', Looked s s' → I s → I s') (step : ∀ c ∈ l, ∀ s s', Made lost c s s' → I s → I s')
    (hs : I s) : I s' := by
  induction l generalizing s with
  | nil => exact look _ _ h hs
  | cons c l ih =>
    obtain ⟨s₀, s₁, h₀, h₁, h⟩ := h
    exact ih h (fun c' hc' => step c' (List.mem_cons_of_mem c hc'))
      (step c List.mem_cons_self _ _ h₁ (look _ _ h₀ hs))

/-- Calls that cannot change what is committed leave it as it is. -/
theorem Moves.tables_eq {l : List CallRecord} {s s' : Store} (h : Moves lost l s s')
    (hp : ∀ c ∈ l, c.request.publishes = false) : s'.tables = s.tables :=
  h.invariant (I := fun t => t.tables = s.tables)
    (fun _ _ hl ht => ((hl.frame .begin).tables rfl).trans ht)
    (fun c hc _ _ hm ht => (hm.frame.tables (hp c hc)).trans ht) rfl

end Memory.Store
end ChunkVault
