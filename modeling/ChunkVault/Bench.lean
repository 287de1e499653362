/-
# ChunkVault.Bench -- a store under observation

A bench holds a store, notes every call that reaches it, and meddles with calls on request: a hook can
fire a token on a chosen call, make the caller wait, or make the call fail before the store sees it. Of
several hooks on one call each acts in turn until one of them ends the call, and none acts again. A bench
also keeps the tokens that have fired and the counters of the operations, and so is all that an
operation needs to run.

Nothing else goes on at a bench while an operation waits for a token, so the bench fires it. A token that the
operation made for itself cannot be fired: a wait for it has no end, and what is answered to it means nothing.
-/
import ChunkVault.Program
import ChunkVault.Memory.Store
import ChunkVault.Sql.Store
import ChunkVault.Sql.Script

namespace ChunkVault

/-- Something to be done on one call to the store. -/
structure Hook where
  kind : CallKind
  /-- How many calls of this kind pass before it. -/
  after : Nat
  fail : Option StorageError
  cancel : Option String
  /-- Whether the caller waits once before the call goes on. -/
  waits : Bool
deriving DecidableEq

/-- What hooks have done to a call. -/
inductive Meddling where
  /-- The call goes on to the store. -/
  | done
  | failed (e : StorageError)
  /-- The caller does not wait for the call any longer. -/
  | givenUp
deriving DecidableEq

/-- The error that a call fails with before the store sees it, if it does. -/
def Meddling.failure? : Meddling → Option StorageError
  | failed e => some e
  | done | givenUp => none

/-- A call as it was noted. -/
structure CallRecord where
  request : Request
  /-- How the call ended; nothing if its caller gave it up. -/
  outcome : Option request.Outcome

/-- What is noted about a store. -/
inductive JournalEntry where
  | call (record : CallRecord)
  /-- A transaction was let go without a commit or a rollback. -/
  | dropped

/-- The store of a bench. -/
inductive Backend where
  | memory (store : Memory.Store)
  | sql (store : Sql.Store Sql.Script)

namespace Backend

/-- Serves a call; the tokens that fire meanwhile come last. -/
def serve (q : Request) : Backend → q.Outcome × Backend × List String
  | memory s =>
    let (outcome, next) := s.serve q
    (outcome, memory next, s.fires q)
  | sql s =>
    let (outcome, next) := s.serve Sql.Script.execute q
    (outcome, sql next, [])

/-- Lets go of a transaction. -/
def discard (tx : TxId) : Backend → Backend
  | memory s => memory (s.discard tx)
  | sql s => sql (s.discard Sql.Script.execute tx)

end Backend

/-- A store under observation. -/
structure Bench where
  backend : Backend
  hooks : List Hook
  /-- The tokens that have fired. -/
  fired : List String
  /-- What was noted, the latest first. -/
  journal : List JournalEntry
  metrics : Metrics

namespace Bench

/-- A bench around a store, before anything has happened. -/
def new (backend : Backend) : Bench where
  backend := backend
  hooks := []
  fired := []
  journal := []
  metrics := .zero

/-- Whether a token has fired. -/
def hasFired (b : Bench) : Token → Bool
  | .own => false
  | .shared name => name ∈ b.fired

/-- Fires the tokens of these names. -/
def fire (b : Bench) (names : List String) : Bench := { b with fired := names ++ b.fired }

/-- Notes something. -/
def note (b : Bench) (entry : JournalEntry) : Bench := { b with journal := entry :: b.journal }

/-- Notes a call. -/
def noteCall (b : Bench) (q : Request) (outcome : Option q.Outcome) : Bench :=
  b.note (.call ⟨q, outcome⟩)

/-- The hooks that act on a call of this kind. -/
def due (b : Bench) (kind : CallKind) : List Hook :=
  b.hooks.filter fun h => h.kind = kind ∧ h.after = 0

/-- Counts a call: hooks that acted are gone, and those that wait for a later call are one call nearer. -/
def passHooks (b : Bench) (kind : CallKind) : Bench :=
  let waiting := b.hooks.filter fun h => ¬(h.kind = kind ∧ h.after = 0)
  { b with hooks := waiting.map fun h => if h.kind = kind then { h with after := h.after - 1 } else h }

/-- Lets the store serve a call, unless a hook makes it fail first. A call that ends a transaction ends
it also when it fails. -/
def serve (b : Bench) (q : Request) (failure : Option StorageError) : q.Outcome × Bench :=
  match failure with
  | some e =>
    let b := b.noteCall q (some (.error e))
    match q.closes? with
    | some tx => (.error e, { b with backend := b.backend.discard tx })
    | none => (.error e, b)
  | none =>
    let (outcome, backend, fires) := b.backend.serve q
    (outcome, ({ b with backend := backend }.fire fires).noteCall q (some outcome))

/-- Lets hooks act one after another, on a call whose caller gives it up if `token` fires while it waits.
The first one that ends the call is the last one to act. -/
def meddle (token : Token) : List Hook → Bench → Meddling × Bench
  | [], b => (.done, b)
  | hook :: others, b =>
    let b := b.fire hook.cancel.toList
    if hook.waits && b.hasFired token then (.givenUp, b)
    else
      match hook.fail with
      | some e => (.failed e, b)
      | none => b.meddle token others

/-- Makes a call whose caller gives it up if `token` fires while it waits. -/
def attempt (b : Bench) (token : Token) (q : Request) : Race q.Outcome × Bench :=
  match (b.passHooks q.kind).meddle token (b.due q.kind) with
  | (.givenUp, b) => (.abandoned, b.noteCall q none)
  | (meddling, b) =>
    let (outcome, b) := b.serve q meddling.failure?
    (.finished outcome, b)

/-- Makes a call and waits for its end. -/
def perform (b : Bench) (q : Request) : q.Outcome × Bench :=
  let (meddling, b) := (b.passHooks q.kind).meddle .own (b.due q.kind)
  b.serve q meddling.failure?

/-- Answers a query of an operation. -/
def answer : (q : Query) → Bench → q.Answer × Bench
  | .call request, b => b.perform request
  | .race token request, b =>
    if b.hasFired token then (.refused, b) else b.attempt token request
  | .fired token, b => (b.hasFired token, b)
  | .wait token, b => ((), b.fire token.names)
  | .fire names, b => ((), b.fire names)
  | .count method failed, b => ((), { b with metrics := b.metrics.record method failed })

/-- Runs an operation. -/
def run {α : Type} (b : Bench) (p : Program α) : α × Bench := p.run answer b

/-- Lets go of a transaction without a commit or a rollback. -/
def drop (b : Bench) (tx : TxId) : Bench :=
  { b with backend := b.backend.discard tx }.note .dropped

end Bench
end ChunkVault
