/-
# ChunkVault.Program -- operations as data

An operation of the engine is a tree: it asks its surroundings a query, and what it does next depends
on the answer. A query is a call to the store, a look at a cancellation token, a wait for one, a token
that a source fires while it is read, or a run to be counted. Nothing is decided here about who answers:
a store in memory, a database, a store that fails, and a scheduler that interleaves many operations are
all ways of running the same tree.
-/
import ChunkVault.Request
import ChunkVault.Metrics

namespace ChunkVault

/-- A cancellation token. -/
inductive Token where
  /-- A token that its operation made for itself: nobody else holds it, so it never fires. -/
  | own
  /-- A token that others know by name. -/
  | shared (name : String)
deriving DecidableEq

/-- The names by which a token can be fired. -/
def Token.names : Token → List String
  | own => []
  | shared name => [name]

/-- How a call ends that is given up as soon as a token fires. -/
inductive Race (α : Type) where
  /-- The token had fired before the call began, so the call was never made. -/
  | refused
  /-- The token fired while the call was under way; how far it came is unknown. -/
  | abandoned
  | finished (value : α)

/-- What an operation asks of its surroundings. -/
inductive Query where
  /-- A call that is awaited to its end. -/
  | call (request : Request)
  /-- A call that is given up when the token fires. -/
  | race (token : Token) (request : Request)
  /-- Whether the token has fired. -/
  | fired (token : Token)
  /-- Waits until the token fires, and for nothing else. There is no answer as long as it has not. -/
  | wait (token : Token)
  /-- Fires the tokens of these names. -/
  | fire (names : List String)
  /-- Counts one run of a method. -/
  | count (method : Method) (failed : Bool)

/-- The type of the answer to a query. -/
@[reducible] def Query.Answer : Query → Type
  | call q => q.Outcome
  | race _ q => Race q.Outcome
  | fired _ => Bool
  | wait _ | fire _ | count .. => Unit

/-- An operation that ends with a value of type `α`. -/
inductive Program (α : Type) where
  | done (value : α)
  | ask (query : Query) (resume : query.Answer → Program α)

namespace Program

variable {α β : Type}

/-- Goes on with `next` where `p` ends. -/
def bind (p : Program α) (next : α → Program β) : Program β :=
  match p with
  | done a => next a
  | ask q resume => ask q fun answer => (resume answer).bind next

instance : Monad Program where
  pure := done
  bind := bind

/-- Runs an operation in surroundings with a state: `answer` says what each query is answered with,
and what becomes of the state. -/
def run {ω : Type} (answer : (q : Query) → ω → q.Answer × ω) : Program α → ω → α × ω
  | done a, w => (a, w)
  | ask q resume, w =>
    let (a, w) := answer q w
    run answer (resume a) w

/-! ## The laws of sequencing -/

@[simp] theorem pure_eq (a : α) : (pure a : Program α) = done a := rfl

@[simp] theorem bind_eq (p : Program α) (f : α → Program β) : p >>= f = p.bind f := rfl

@[simp] theorem done_bind (a : α) (f : α → Program β) : (done a).bind f = f a := rfl

@[simp] theorem ask_bind (q : Query) (resume : q.Answer → Program α) (f : α → Program β) :
    (ask q resume).bind f = ask q fun answer => (resume answer).bind f := rfl

@[simp] theorem bind_done (p : Program α) : p.bind done = p := by
  induction p with
  | done a => rfl
  | ask q resume ih => exact congrArg (ask q) (funext ih)

theorem bind_assoc {γ : Type} (p : Program α) (f : α → Program β) (g : β → Program γ) :
    (p.bind f).bind g = p.bind fun a => (f a).bind g := by
  induction p with
  | done a => rfl
  | ask q resume ih => exact congrArg (ask q) (funext ih)

/-- A sequence runs its first part and hands the state on to the second. -/
theorem run_bind {ω : Type} (answer : (q : Query) → ω → q.Answer × ω) (p : Program α)
    (f : α → Program β) (w : ω) :
    (p.bind f).run answer w = (f (p.run answer w).1).run answer (p.run answer w).2 := by
  induction p generalizing w with
  | done a => rfl
  | ask q resume ih => exact ih _ _

/-! ## Single queries -/

/-- Makes a call and waits for its end. -/
def call (q : Request) : Program q.Outcome := ask (.call q) done

/-- Whether the token has fired. -/
def fired (token : Token) : Program Bool := ask (.fired token) done

/-- Waits until the token fires. -/
def wait (token : Token) : Program Unit := ask (.wait token) done

/-- Fires the tokens of these names, if there are any. -/
def fire (names : List String) : Program Unit :=
  if names.isEmpty then done () else ask (.fire names) done

/-- Counts one run of a method. -/
def count (method : Method) (failed : Bool) : Program Unit := ask (.count method failed) done

/-- Makes a call unless the token fires first, before it or during it. -/
def race (token : Token) (q : Request) : Program q.Outcome :=
  ask (.race token q) fun
    | .refused | .abandoned => done (.error .cancelled)
    | .finished outcome => done outcome

/-! ## Counting -/

/-- Whether a result is a failure that the error counters count. -/
def isFailure : Except StorageError α → Bool
  | .ok _ => false
  | .error e => !e.isEndOfStream

/-- Runs an operation and counts the run under `method`. -/
def counted (method : Method) (p : Program (Except StorageError α)) :
    Program (Except StorageError α) := do
  let result ← p
  count method (isFailure result)
  return result

/-- Fetches a chunk unless the token fires first. A fetch that was given up on the way is counted as a
run and not as a failure; one that the token refused is not counted. -/
def fetch (token : Token) (id : Uuid) : Program (Except StorageError (Option Bytes)) :=
  ask (.race token (.findChunk id)) fun
    | .refused => done (.error .cancelled)
    | .abandoned => do
      count .fetchChunk false
      return .error .cancelled
    | .finished outcome => do
      count .fetchChunk (isFailure outcome)
      return outcome

end Program
end ChunkVault
