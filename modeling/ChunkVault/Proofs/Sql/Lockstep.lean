/-
# ChunkVault.Proofs.Sql.Lockstep -- one operation over two stores

The same operation is run over a store in memory and over a store on a relational database. `Lockstep I p p' Q`
says that the two runs stay together: begun in stores for which `I` holds they end in stores for which `Q`
holds, with answers that correspond. The programs may differ in the ids that they mention. What is said of
stamps is said under a matching of stamps that grows on the way.

The rules are those of a program logic with two programs in the place of one: a rule for a sequence, one for
a call, and one for what may fail, where both runs fail with the same error or neither does (`Concur`). All
that is ever said of a store is said in a rule for a call (`CallsAlike`).
-/
import ChunkVault.Proofs.Deciding
import ChunkVault.Proofs.Memory.Quiet
import ChunkVault.Proofs.Sql.Correspondence

namespace ChunkVault

open Program

/-! ## Surroundings without faults -/

/-- Whether a token is among those of these names. -/
def Token.isAmong (names : List String) : Token → Bool
  | .own => false
  | .shared name => name ∈ names

/-- A store, and the names of the tokens that have fired. -/
structure Scene (ω : Type) where
  store : ω
  fired : List String

namespace Scene

variable {ω α : Type}

/-- Answers a query. No call fails that the store does not refuse, and no token fires but by a source, or because
nothing else is waited for. -/
def answer (serve : (q : Request) → ω → q.Outcome × ω) : (q : Query) → Scene ω → q.Answer × Scene ω
  | .call q, w =>
    let (outcome, store) := serve q w.store
    (outcome, { w with store := store })
  | .race token q, w =>
    if token.isAmong w.fired then (.refused, w)
    else
      let (outcome, store) := serve q w.store
      (.finished outcome, { w with store := store })
  | .fired token, w => (token.isAmong w.fired, w)
  | .wait token, w => ((), { w with fired := token.names ++ w.fired })
  | .fire names, w => ((), { w with fired := names ++ w.fired })
  | .count .., w => ((), w)

variable (serve : (q : Request) → ω → q.Outcome × ω)

theorem answer_race (token : Token) (q : Request) (w : Scene ω) :
    answer serve (.race token q) w =
      if token.isAmong w.fired then (.refused, w)
      else (.finished (serve q w.store).1, { w with store := (serve q w.store).2 }) := rfl

theorem run_race (token : Token) (q : Request) (w : Scene ω) :
    (Program.race token q).run (answer serve) w =
      if token.isAmong w.fired then (.error .cancelled, w)
      else ((serve q w.store).1, { w with store := (serve q w.store).2 }) := by
  rw [Program.race, Program.run, answer_race]
  cases token.isAmong w.fired <;> rfl

/-- Counting leaves a scene as it is, so a fetch is a call like any other. -/
theorem run_fetch (token : Token) (id : Uuid) (w : Scene ω) :
    (Program.fetch token id).run (answer serve) w =
      (Program.race token (.findChunk id)).run (answer serve) w := by
  rw [run_race, Program.fetch, Program.run, answer_race]
  cases token.isAmong w.fired <;> rfl

end Scene

/-- Runs an operation over a store in memory. -/
def runMemory {α : Type} (p : Program α) (w : Scene Memory.Store) : α × Scene Memory.Store :=
  p.run (Scene.answer Memory.Store.serve) w

/-- Runs an operation over a store on a relational database. -/
def runSql {α : Type} (p : Program α) (w : Scene (Sql.Store Sql.Relational)) :
    α × Scene (Sql.Store Sql.Relational) :=
  p.run (Scene.answer (Sql.Store.serve Sql.Relational.execute)) w

section Runs

variable {α β : Type}

theorem runMemory_bind (p : Program α) (f : α → Program β) (w : Scene Memory.Store) :
    runMemory (p.bind f) w = runMemory (f (runMemory p w).1) (runMemory p w).2 := Program.run_bind _ p f w

theorem runSql_bind (p : Program α) (f : α → Program β) (w : Scene (Sql.Store Sql.Relational)) :
    runSql (p.bind f) w = runSql (f (runSql p w).1) (runSql p w).2 := Program.run_bind _ p f w

theorem issued_le_answer (q : Query) (w : Scene Memory.Store) :
    w.store.issued ≤ (Scene.answer Memory.Store.serve q w).2.store.issued := by
  cases q with
  | call q => exact (Memory.Store.Frame.serve q w.store).issued
  | race token q =>
    rw [Scene.answer_race]
    split
    · exact Nat.le_refl _
    · exact (Memory.Store.Frame.serve q w.store).issued
  | fired token => exact Nat.le_refl _
  | wait token => exact Nat.le_refl _
  | fire names => exact Nat.le_refl _
  | count method failed => exact Nat.le_refl _

/-- Ids are only ever used up. -/
theorem issued_le_run (p : Program α) (w : Scene Memory.Store) :
    w.store.issued ≤ (runMemory p w).2.store.issued := by
  induction p generalizing w with
  | done a => exact Nat.le_refl _
  | ask q resume ih => exact Nat.le_trans (issued_le_answer q w) (ih _ _)

end Runs

/-- Whether a query makes no call. -/
def Query.Silent : Query → Prop
  | .call _ | .race .. => False
  | .fired _ | .wait _ | .fire _ | .count .. => True

/-! ## Lockstep -/

/-- What is known of two stores under a matching of their stamps. -/
abbrev Bond := Stamps → Memory.Store → Sql.Store Sql.Relational → Prop

/-- **Two runs stay together**, as long as the ids do not run out: from stores that are in the bond `I` they
come to answers and stores that are in the bond `Q`, under a matching that keeps the pairs which it had. The
same tokens have fired on both sides all along. -/
def Lockstep {α β : Type} (I : Bond) (p : Program α) (p' : Program β) (Q : α → β → Bond) : Prop :=
  ∀ τ s d fired, I τ s d → (runMemory p ⟨s, fired⟩).2.store.issued ≤ Uuid.issueCount →
    ∃ τ', τ ≤ τ' ∧ (runSql p' ⟨d, fired⟩).2.fired = (runMemory p ⟨s, fired⟩).2.fired ∧
      Q (runMemory p ⟨s, fired⟩).1 (runSql p' ⟨d, fired⟩).1 τ' (runMemory p ⟨s, fired⟩).2.store
        (runSql p' ⟨d, fired⟩).2.store

/-- Two calls are served with outcomes and stores that are in the bond `Q`. -/
def CallsAlike (I : Bond) (q q' : Request) (Q : q.Outcome → q'.Outcome → Bond) : Prop :=
  ∀ τ s d, I τ s d → (s.serve q).2.issued ≤ Uuid.issueCount →
    ∃ τ', τ ≤ τ' ∧ Q (s.serve q).1 (d.serve Sql.Relational.execute q').1 τ' (s.serve q).2
      (d.serve Sql.Relational.execute q').2

/-- **Both succeed**, and then this is known of the values and the stores, **or both fail** with the same
error. -/
inductive Concur {α β : Type} (J : α → β → Bond) (E : Bond) :
    Except StorageError α → Except StorageError β → Bond
  | ok {a : α} {b : β} {τ : Stamps} {s : Memory.Store} {d : Sql.Store Sql.Relational} (h : J a b τ s d) :
      Concur J E (.ok a) (.ok b) τ s d
  | error (e : StorageError) {τ : Stamps} {s : Memory.Store} {d : Sql.Store Sql.Relational} (h : E τ s d) :
      Concur J E (.error e) (.error e) τ s d

namespace Lockstep

variable {α β γ δ : Type} {I E : Bond} {p : Program α} {p' : Program β} {f : α → Program γ} {f' : β → Program δ}
  {P : α → β → Bond} {Q : γ → δ → Bond}

theorem done {a : α} {b : β} (h : ∀ τ s d, I τ s d → P a b τ s d) : Lockstep I (.done a) (.done b) P :=
  fun τ s d _ hI _ => ⟨τ, le_refl τ, rfl, h τ s d hI⟩

/-- Both succeed at once. -/
theorem succeed {J : α → β → Bond} {a : α} {b : β} (h : ∀ τ s d, I τ s d → J a b τ s d) :
    Lockstep I (.done (.ok a)) (.done (.ok b)) (Concur J E) := done fun τ s d hI => .ok (h τ s d hI)

/-- Both fail at once. -/
theorem fail {J : α → β → Bond} (e : StorageError) (h : ∀ τ s d, I τ s d → E τ s d) :
    Lockstep I (.done (.error e)) (.done (.error e)) (Concur J E) := done fun τ s d hI => .error e (h τ s d hI)

/-- Less is known before, or after. -/
theorem mono {I' : Bond} {P' : α → β → Bond} (h : Lockstep I p p' P) (hI : ∀ τ s d, I' τ s d → I τ s d)
    (hP : ∀ a b τ s d, P a b τ s d → P' a b τ s d) : Lockstep I' p p' P' := by
  intro τ s d fired hbond hids
  obtain ⟨τ', hτ, hfired, hpost⟩ := h τ s d fired (hI τ s d hbond) hids
  exact ⟨τ', hτ, hfired, hP _ _ _ _ _ hpost⟩

/-- What is known beyond the stores. -/
theorem given {φ : Prop} (h : φ → Lockstep I p p' P) : Lockstep (fun τ s d => φ ∧ I τ s d) p p' P :=
  fun τ s d fired hbond hids => h hbond.1 τ s d fired hbond.2 hids

/-- What is known of a matching and stays true when it grows is known afterwards. -/
theorem keeping {M : Stamps → Prop} (h : Lockstep I p p' P) (hM : ∀ τ τ', τ ≤ τ' → M τ → M τ') :
    Lockstep (fun τ s d => M τ ∧ I τ s d) p p' fun a b τ s d => M τ ∧ P a b τ s d := by
  intro τ s d fired hbond hids
  obtain ⟨τ', hτ, hfired, hpost⟩ := h τ s d fired hbond.2 hids
  exact ⟨τ', hτ, hfired, hM τ τ' hτ hbond.1, hpost⟩

/-- **The rule for a sequence.** -/
theorem bind (h : Lockstep I p p' P) (hf : ∀ a b, Lockstep (P a b) (f a) (f' b) Q) :
    Lockstep I (p.bind f) (p'.bind f') Q := by
  intro τ s d fired hI hids
  simp only [runMemory_bind, runSql_bind] at hids ⊢
  have hfirst := Nat.le_trans (issued_le_run _ _) hids
  obtain ⟨τ₁, hτ₁, hfired₁, hP⟩ := h τ s d fired hI hfirst
  -- the second parts begin with the same tokens fired
  rcases hleft : runMemory p ⟨s, fired⟩ with ⟨a, s₁, fired₁⟩
  rcases hright : runSql p' ⟨d, fired⟩ with ⟨b, d₁, fired₁'⟩
  rw [hleft, hright] at hfired₁ hP
  rw [hleft] at hids
  obtain rfl : fired₁' = fired₁ := hfired₁
  obtain ⟨τ₂, hτ₂, hfired₂, hQ⟩ := hf a b τ₁ s₁ d₁ fired₁' hP hids
  exact ⟨τ₂, le_trans hτ₁ hτ₂, hfired₂, hQ⟩

/-- The rule for a sequence whose first part may fail. -/
theorem bind_concur {α β : Type} {p : Program (Except StorageError α)} {p' : Program (Except StorageError β)}
    {f : Except StorageError α → Program γ} {f' : Except StorageError β → Program δ} {J : α → β → Bond}
    (h : Lockstep I p p' (Concur J E)) (herror : ∀ e, Lockstep E (f (.error e)) (f' (.error e)) Q)
    (hok : ∀ a b, Lockstep (J a b) (f (.ok a)) (f' (.ok b)) Q) : Lockstep I (p.bind f) (p'.bind f') Q := by
  refine h.bind fun o o' τ s d fired hconcur hids => ?_
  cases hconcur with
  | ok hJ => exact hok _ _ τ s d fired hJ hids
  | error e hE => exact herror e τ s d fired hE hids

/-! ### Single queries -/

theorem call {q q' : Request} {Q : q.Outcome → q'.Outcome → Bond} (h : CallsAlike I q q' Q) :
    Lockstep I (Program.call q) (Program.call q') Q := by
  intro τ s d fired hI hids
  obtain ⟨τ', hτ, hQ⟩ := h τ s d hI hids
  exact ⟨τ', hτ, rfl, hQ⟩

/-- A call that the token refuses on both sides, or on neither. -/
theorem race {q q' : Request} {J : q.Reply → q'.Reply → Bond} (h : CallsAlike I q q' (Concur J E))
    (hE : ∀ τ s d, I τ s d → E τ s d) (token : Token) :
    Lockstep I (Program.race token q) (Program.race token q') (Concur J E) := by
  intro τ s d fired hI hids
  simp only [runMemory, runSql, Scene.run_race] at hids ⊢
  cases hfired : token.isAmong fired with
  | true => exact ⟨τ, le_refl τ, rfl, .error _ (hE τ s d hI)⟩
  | false =>
    simp only [hfired, Bool.false_eq_true, if_false] at hids
    obtain ⟨τ', hτ, hQ⟩ := h τ s d hI hids
    exact ⟨τ', hτ, rfl, hQ⟩

/-- A fetch, which is a call that the token can refuse. -/
theorem fetch {id id' : Uuid} {J : Option Bytes → Option Bytes → Bond}
    (h : CallsAlike I (.findChunk id) (.findChunk id') (Concur J E)) (hE : ∀ τ s d, I τ s d → E τ s d)
    (token : Token) : Lockstep I (Program.fetch token id) (Program.fetch token id') (Concur J E) := by
  intro τ s d fired hI hids
  simp only [runMemory, runSql, Scene.run_fetch] at hids ⊢
  exact Lockstep.race h hE token τ s d fired hI hids

/-- A program that makes no call is answered the same on both sides, and leaves the stores as they are. -/
theorem of_silent {p : Program α} (hp : p.Asks Query.Silent) :
    Lockstep I p p fun a b τ s d => a = b ∧ I τ s d := by
  induction p with
  | done a => exact done fun τ s d hI => ⟨rfl, hI⟩
  | ask q resume ih =>
    obtain ⟨hq, hresume⟩ := hp
    intro τ s d fired hI hids
    cases q with
    | call q => exact hq.elim
    | race token q => exact hq.elim
    | fired token => exact ih _ (hresume _) τ s d fired hI hids
    | wait token => exact ih _ (hresume _) τ s d (token.names ++ fired) hI hids
    | fire names => exact ih _ (hresume _) τ s d (names ++ fired) hI hids
    | count method failed => exact ih _ (hresume _) τ s d fired hI hids

/-- Counting leaves the answer as it is. -/
theorem counted {α β : Type} {p : Program (Except StorageError α)} {p' : Program (Except StorageError β)}
    {R : Except StorageError α → Except StorageError β → Bond} (method : Method) (h : Lockstep I p p' R) :
    Lockstep I (Program.counted method p) (Program.counted method p') R :=
  h.bind fun _ _ τ _ _ _ hR _ => ⟨τ, le_refl τ, rfl, hR⟩

end Lockstep
end ChunkVault
