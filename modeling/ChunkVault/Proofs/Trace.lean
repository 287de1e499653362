/-
# ChunkVault.Proofs.Trace -- what an operation asks, and how it may be answered

An operation is a tree of queries, and a run of it is a path through that tree. A *trace* is the list of
queries on such a path, each with the answer that it was given. Nothing limits the answers here: a trace
of `p` is a run of `p` over any store, under any tokens, with any failures. `Ends p es a` says that `p`,
answered as in `es`, ends with `a`, and `Trace p es q` that it has come as far as `q`.

Surroundings come in afterwards, as a relation `may` that says which answers they can give in which state
and what becomes of the state: `Along may w es w'` follows a trace through them. `run_ends` ties the two
to `Program.run`, where the surroundings are a function.
-/
import ChunkVault.Bench

namespace ChunkVault

/-- A query together with the answer that it was given. -/
structure Exchange where
  query : Query
  answer : query.Answer

/-- The call that an exchange stands for, if it was made: a refused call is none, and of one that was
given up on the way the end is not known. -/
def Exchange.call? : Exchange → Option CallRecord
  | ⟨.call q, outcome⟩ => some ⟨q, some outcome⟩
  | ⟨.race _ _, .refused⟩ => none
  | ⟨.race _ q, .abandoned⟩ => some ⟨q, none⟩
  | ⟨.race _ q, .finished outcome⟩ => some ⟨q, some outcome⟩
  | ⟨.fired _, _⟩ | ⟨.wait _, _⟩ | ⟨.fire _, _⟩ | ⟨.count .., _⟩ => none

/-- The calls to the store in a trace, in the order in which they were started. -/
def calls (es : List Exchange) : List CallRecord := es.filterMap Exchange.call?

@[simp] theorem calls_nil : calls [] = [] := rfl

@[simp] theorem calls_append (es fs : List Exchange) : calls (es ++ fs) = calls es ++ calls fs :=
  List.filterMap_append

theorem calls_cons (x : Exchange) (es : List Exchange) :
    calls (x :: es) = x.call?.toList ++ calls es := by
  cases h : x.call? with
  | none => rw [calls, List.filterMap_cons_none h]; rfl
  | some c => rw [calls, List.filterMap_cons_some h]; rfl

/-- Counting at the end of a run is no call. -/
theorem calls_append_count (es : List Exchange) (method : Method) (failed : Bool) :
    calls (es ++ [⟨.count method failed, ()⟩]) = calls es := by
  rw [calls_append]
  exact List.append_nil _

/-- Counting makes no calls. -/
theorem calls_of_counts {fs : List Exchange} (h : ∀ x ∈ fs, ∃ method failed, x = ⟨.count method failed, ()⟩) :
    calls fs = [] := by
  refine List.filterMap_eq_nil_iff.mpr fun x hx => ?_
  obtain ⟨method, failed, rfl⟩ := h x hx
  rfl

/-- A call that succeeded. -/
def CallRecord.ok (q : Request) (v : q.Reply) : CallRecord := ⟨q, some (.ok v)⟩

/-- A call that brought its caller nothing: it failed, or it was given up. -/
def CallRecord.Failed (c : CallRecord) : Prop := ∀ v, c.outcome ≠ some (.ok v)

/-- What a call that is raced against a token comes to for its caller. -/
def Race.outcome {α : Type} : Race (Except StorageError α) → Except StorageError α
  | refused | abandoned => .error .cancelled
  | finished outcome => outcome

/-- Whatever is asked, there is an answer to it. -/
theorem Query.exists_answer (q : Query) : Nonempty q.Answer := by
  cases q with
  | call q => exact ⟨(.error .cancelled : q.Outcome)⟩
  | race token q => exact ⟨(.refused : Race q.Outcome)⟩
  | fired token => exact ⟨false⟩
  | wait token => exact ⟨()⟩
  | fire names => exact ⟨()⟩
  | count method failed => exact ⟨()⟩

namespace Program

variable {α β ω : Type}

/-! ## Whole runs -/

/-- Answered as in `es`, the operation ends with the value `b`. -/
def Ends : Program α → List Exchange → α → Prop
  | done a, es, b => es = [] ∧ b = a
  | ask q resume, es, b => ∃ a rest, es = ⟨q, a⟩ :: rest ∧ (resume a).Ends rest b

@[simp] theorem ends_done {a b : α} {es : List Exchange} : (done a).Ends es b ↔ es = [] ∧ b = a :=
  Iff.rfl

/-- **A run of a sequence is a run of its first part and then one of the second.** -/
theorem ends_bind {p : Program α} {f : α → Program β} {es : List Exchange} {b : β} :
    (p.bind f).Ends es b ↔
      ∃ es₁ es₂ a, es = es₁ ++ es₂ ∧ p.Ends es₁ a ∧ (f a).Ends es₂ b := by
  -- along the queries of the first part
  induction p generalizing es with
  | done a =>
    constructor
    · intro h
      exact ⟨[], es, a, rfl, ⟨rfl, rfl⟩, h⟩
    · rintro ⟨es₁, es₂, a', rfl, ⟨rfl, rfl⟩, h⟩
      exact h
  | ask q resume ih =>
    constructor
    · rintro ⟨a, rest, rfl, h⟩
      obtain ⟨es₁, es₂, v, rfl, h₁, h₂⟩ := (ih a).mp h
      exact ⟨⟨q, a⟩ :: es₁, es₂, v, rfl, ⟨a, es₁, rfl, h₁⟩, h₂⟩
    · rintro ⟨es₁, es₂, v, rfl, ⟨a, rest, rfl, h₁⟩, h₂⟩
      exact ⟨a, rest ++ es₂, rfl, (ih a).mpr ⟨rest, es₂, v, rfl, h₁, h₂⟩⟩

/-- A run of an operation that makes something of the value of another is a run of the other. -/
theorem ends_bind_done {p : Program α} {f : α → β} {es : List Exchange} {b : β} :
    (p.bind fun a => done (f a)).Ends es b ↔ ∃ a, p.Ends es a ∧ b = f a := by
  rw [ends_bind]
  constructor
  · rintro ⟨es₁, es₂, a, rfl, h, rfl, rfl⟩
    rw [List.append_nil]
    exact ⟨a, h, rfl⟩
  · rintro ⟨a, h, rfl⟩
    exact ⟨es, [], a, (List.append_nil es).symm, h, rfl, rfl⟩

/-- Of two operations that come to the same, after something is made of the value of each, every run of one is a
run of the other. -/
theorem ends_of_bind_done_eq {γ : Type} {p : Program α} {p' : Program β} {f : α → γ} {g : β → γ}
    (h : (p.bind fun a => done (f a)) = p'.bind fun b => done (g b)) {es : List Exchange} {a : α} (hp : p.Ends es a) :
    ∃ b, p'.Ends es b ∧ f a = g b := by
  have hends : (p.bind fun a => done (f a)).Ends es (f a) := ends_bind_done.mpr ⟨a, hp, rfl⟩
  rw [h] at hends
  exact ends_bind_done.mp hends

/-- **What follows an operation counts only for the values that the operation can end with.** -/
theorem bind_congr_of_ends {p : Program α} {f g : α → Program β}
    (h : ∀ es a, p.Ends es a → f a = g a) : p.bind f = p.bind g := by
  induction p with
  | done a => exact h [] a ⟨rfl, rfl⟩
  | ask q resume ih =>
    rw [ask_bind, ask_bind]
    refine congrArg (ask q) (funext fun a => ih a ?_)
    intro es b hends
    exact h (⟨q, a⟩ :: es) b ⟨a, es, rfl, hends⟩

theorem ends_call {q : Request} {es : List Exchange} {o : q.Outcome} :
    (call q).Ends es o ↔ es = [⟨.call q, o⟩] := by
  constructor
  · rintro ⟨a, rest, rfl, rfl, rfl⟩
    rfl
  · rintro rfl
    exact ⟨o, [], rfl, rfl, rfl⟩

theorem ends_race {token : Token} {q : Request} {es : List Exchange} {o : q.Outcome} :
    (race token q).Ends es o ↔ ∃ r : Race q.Outcome, es = [⟨.race token q, r⟩] ∧ o = r.outcome := by
  constructor
  · rintro ⟨r, rest, rfl, h⟩
    refine ⟨r, ?_⟩
    cases r <;> exact ⟨by rw [h.1], h.2⟩
  · rintro ⟨r, rfl, rfl⟩
    refine ⟨r, [], rfl, ?_⟩
    cases r <;> exact ⟨rfl, rfl⟩

theorem ends_fired {token : Token} {es : List Exchange} {b : Bool} :
    (fired token).Ends es b ↔ es = [⟨.fired token, b⟩] := by
  constructor
  · rintro ⟨a, rest, rfl, rfl, rfl⟩
    rfl
  · rintro rfl
    exact ⟨b, [], rfl, rfl, rfl⟩

theorem ends_wait {token : Token} {es : List Exchange} {u : Unit} :
    (wait token).Ends es u ↔ es = [⟨.wait token, ()⟩] := by
  constructor
  · rintro ⟨a, rest, rfl, rfl, -⟩
    rfl
  · rintro rfl
    exact ⟨(), [], rfl, rfl, rfl⟩

/-- Counting adds one exchange to the end of a run and leaves its result as it is. -/
theorem ends_counted {method : Method} {p : Program (Except StorageError α)} {es : List Exchange}
    {r : Except StorageError α} :
    (counted method p).Ends es r ↔
      ∃ es₁, es = es₁ ++ [⟨.count method (isFailure r), ()⟩] ∧ p.Ends es₁ r := by
  unfold counted
  rw [bind_eq, ends_bind]
  constructor
  · rintro ⟨es₁, es₂, a, rfl, h, u, rest, rfl, rfl, rfl⟩
    exact ⟨es₁, rfl, h⟩
  · rintro ⟨es₁, rfl, h⟩
    exact ⟨es₁, _, r, rfl, h, (), [], rfl, rfl, rfl⟩

/-- Every operation can be brought to an end. -/
theorem exists_ends (p : Program α) : ∃ es a, p.Ends es a := by
  induction p with
  | done a => exact ⟨[], a, rfl, rfl⟩
  | ask q resume ih =>
    obtain ⟨a⟩ := q.exists_answer
    obtain ⟨es, b, h⟩ := ih a
    exact ⟨⟨q, a⟩ :: es, b, a, es, rfl, h⟩

/-! ## Runs under way -/

/-- Answered as in the list, the operation has come to where the other one begins. -/
inductive Trace : Program α → List Exchange → Program α → Prop
  | refl (p : Program α) : Trace p [] p
  | snoc {p : Program α} {es : List Exchange} {q : Query} {resume : q.Answer → Program α}
      (h : Trace p es (ask q resume)) (a : q.Answer) : Trace p (es ++ [⟨q, a⟩]) (resume a)

/-- What is still to come of a run completes what has been seen of it. -/
theorem Trace.ends {p p' : Program α} {es fs : List Exchange} {b : α} (h : p.Trace es p')
    (hp : p'.Ends fs b) : p.Ends (es ++ fs) b := by
  induction h generalizing fs with
  | refl => exact hp
  | snoc _ a ih =>
    rw [List.append_assoc]
    exact ih ⟨a, fs, rfl, hp⟩

/-- A run under way is the front of a whole run, whatever it is answered next. -/
theorem Trace.exists_ends {p : Program α} {es : List Exchange} {q : Query}
    {resume : q.Answer → Program α} (h : p.Trace es (ask q resume)) (a : q.Answer) :
    ∃ fs b, p.Ends (es ++ ⟨q, a⟩ :: fs) b := by
  obtain ⟨fs, b, hb⟩ := (resume a).exists_ends
  exact ⟨fs, b, h.ends ⟨a, fs, rfl, hb⟩⟩

/-! ## Surroundings -/

/-- Follows a trace through surroundings that can give these answers, from one state to another. -/
inductive Along (may : (q : Query) → ω → q.Answer → ω → Prop) : ω → List Exchange → ω → Prop
  | nil (w : ω) : Along may w [] w
  | cons {q : Query} {a : q.Answer} {w w' w'' : ω} {es : List Exchange}
      (h : may q w a w') (hs : Along may w' es w'') : Along may w (⟨q, a⟩ :: es) w''

variable {may : (q : Query) → ω → q.Answer → ω → Prop}

@[simp] theorem along_nil {w w' : ω} : Along may w [] w' ↔ w' = w := by
  constructor
  · rintro ⟨⟩
    rfl
  · rintro rfl
    exact .nil _

theorem along_cons {x : Exchange} {es : List Exchange} {w w'' : ω} :
    Along may w (x :: es) w'' ↔ ∃ w', may x.query w x.answer w' ∧ Along may w' es w'' := by
  constructor
  · rintro (_ | ⟨h, hs⟩)
    exact ⟨_, h, hs⟩
  · rintro ⟨w', h, hs⟩
    exact .cons h hs

theorem along_append {es fs : List Exchange} {w w'' : ω} :
    Along may w (es ++ fs) w'' ↔ ∃ w', Along may w es w' ∧ Along may w' fs w'' := by
  induction es generalizing w with
  | nil => simp
  | cons x es ih =>
    simp only [List.cons_append, along_cons, ih]
    constructor
    · rintro ⟨w₁, h, w', hes, hfs⟩
      exact ⟨w', ⟨w₁, h, hes⟩, hfs⟩
    · rintro ⟨w', ⟨w₁, h, hes⟩, hfs⟩
      exact ⟨w₁, h, w', hes, hfs⟩

/-- Surroundings that can give more answers can give these. -/
theorem Along.mono {may' : (q : Query) → ω → q.Answer → ω → Prop}
    (himp : ∀ q w a w', may q w a w' → may' q w a w') {w w' : ω} {es : List Exchange}
    (h : Along may w es w') : Along may' w es w' := by
  induction h with
  | nil w => exact .nil w
  | cons h _ ih => exact .cons (himp _ _ _ _ h) ih

/-- Every query that the operation can come to ask is one of these. -/
def Asks (Q : Query → Prop) : Program α → Prop
  | done _ => True
  | ask q resume => Q q ∧ ∀ a, (resume a).Asks Q

theorem Asks.bind_of_ends {Q : Query → Prop} {p : Program α} {f : α → Program β} (h : p.Asks Q)
    (hf : ∀ es a, p.Ends es a → (f a).Asks Q) : (p.bind f).Asks Q := by
  induction p with
  | done a => exact hf [] a ⟨rfl, rfl⟩
  | ask q resume ih => exact ⟨h.1, fun a => ih a (h.2 a) fun es b hends => hf _ b ⟨a, es, rfl, hends⟩⟩

theorem Asks.bind {Q : Query → Prop} {p : Program α} {f : α → Program β} (h : p.Asks Q)
    (hf : ∀ a, (f a).Asks Q) : (p.bind f).Asks Q :=
  h.bind_of_ends fun _ a _ => hf a

theorem Asks.mono {Q Q' : Query → Prop} {p : Program α} (h : p.Asks Q) (himp : ∀ q, Q q → Q' q) :
    p.Asks Q' := by
  induction p with
  | done a => exact trivial
  | ask q resume ih => exact ⟨himp q h.1, fun a => ih a (h.2 a)⟩

theorem Asks.call {Q : Query → Prop} {q : Request} (h : Q (.call q)) : (call q).Asks Q := ⟨h, fun _ => trivial⟩

theorem Asks.race {Q : Query → Prop} {token : Token} {q : Request} (h : Q (.race token q)) :
    (race token q).Asks Q := by
  refine ⟨h, fun race => ?_⟩
  cases race <;> exact trivial

theorem Asks.counted {Q : Query → Prop} {method : Method} {p : Program (Except StorageError α)} (h : p.Asks Q)
    (hcount : ∀ failed, Q (.count method failed)) : (counted method p).Asks Q :=
  h.bind fun _ => ⟨hcount _, fun _ => trivial⟩

theorem Asks.queries {Q : Query → Prop} {p : Program α} (hp : p.Asks Q) {es : List Exchange} {b : α}
    (h : p.Ends es b) : ∀ x ∈ es, Q x.query := by
  induction p generalizing es with
  | done a =>
    obtain ⟨rfl, -⟩ := h
    exact fun x hx => absurd hx List.not_mem_nil
  | ask q resume ih =>
    obtain ⟨a, rest, rfl, h⟩ := h
    intro x hx
    rcases List.mem_cons.mp hx with rfl | hx
    · exact hp.1
    · exact ih a (hp.2 a) h x hx

/-- What every answer to such a query keeps, a run of such queries keeps, and what is true of every such
answer in surroundings that keep it is true of all exchanges of the run. -/
theorem Along.exchanges {Q : Query → Prop} {I : ω → Prop} {P : Exchange → Prop}
    (step : ∀ q w a w', Q q → may q w a w' → I w → P ⟨q, a⟩ ∧ I w') {es : List Exchange} {w w' : ω}
    (h : Along may w es w') (hes : ∀ x ∈ es, Q x.query) (hw : I w) : (∀ x ∈ es, P x) ∧ I w' := by
  induction h with
  | nil w => exact ⟨fun x hx => absurd hx List.not_mem_nil, hw⟩
  | @cons q a w w₁ w₂ es hmay _ ih =>
    obtain ⟨hx, hw₁⟩ := step q w a w₁ (hes _ List.mem_cons_self) hmay hw
    obtain ⟨hxs, hw₂⟩ := ih (fun x hmem => hes x (List.mem_cons_of_mem _ hmem)) hw₁
    refine ⟨fun x hmem => ?_, hw₂⟩
    rcases List.mem_cons.mp hmem with rfl | hmem
    · exact hx
    · exact hxs x hmem

/-- The surroundings that a function makes: they have one answer to a query in every state. -/
def Answering (answer : (q : Query) → ω → q.Answer × ω) (q : Query) (w : ω) (a : q.Answer) (w' : ω) :
    Prop := answer q w = (a, w')

/-- **Running an operation is one of its traces**, followed through the surroundings that run it. -/
theorem run_ends (answer : (q : Query) → ω → q.Answer × ω) (p : Program α) (w : ω) :
    ∃ es, p.Ends es (p.run answer w).1 ∧ Along (Answering answer) w es (p.run answer w).2 := by
  induction p generalizing w with
  | done a => exact ⟨[], ⟨rfl, rfl⟩, .nil w⟩
  | ask q resume ih =>
    obtain ⟨es, h, hw⟩ := ih (answer q w).1 (answer q w).2
    exact ⟨⟨q, (answer q w).1⟩ :: es, ⟨_, es, rfl, h⟩, .cons rfl hw⟩

/-- A trace that is followed through the surroundings that a function makes is how the operation runs in them. -/
theorem run_eq_of_ends {answer : (q : Query) → ω → q.Answer × ω} {p : Program α} {es : List Exchange} {a : α}
    {w w' : ω} (h : p.Ends es a) (halong : Along (Answering answer) w es w') : p.run answer w = (a, w') := by
  induction p generalizing es w with
  | done b =>
    obtain ⟨rfl, rfl⟩ := h
    rw [along_nil.mp halong]
    rfl
  | ask q resume ih =>
    obtain ⟨b, rest, rfl, h⟩ := h
    obtain ⟨w₁, hanswer, halong⟩ := along_cons.mp halong
    rw [run, show answer q w = (b, w₁) from hanswer]
    exact ih b h halong

end Program
end ChunkVault
