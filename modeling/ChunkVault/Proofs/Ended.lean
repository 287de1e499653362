/-
# ChunkVault.Proofs.Ended -- a reader that was closed or has failed is at its end

Two things put an end to a reader: it is closed, or it fails. They are kept in different places, and each
operation looks at both. What they come to is one thing, `Reader.Ended`: there is an error that every read and
every seek has latched (`Ended.latched?`, `Ended.seekLatched?`). Which one it is, the condition of the reader says
(`Reader.verdict`), and a close leaves that as it is.

So an operation on such a reader, and with it a history of operations (`history_latched`), asks nothing and moves
nothing, and leaves the reader as it was, but that it may have been closed (`Reader.Lasts`). `ended_inert` puts this
together with how a reader comes to its end, and with what a stream has that is made of it there.
-/
import ChunkVault.Proofs.Latch
import ChunkVault.Proofs.Polling

namespace ChunkVault

open Program

/-! ## What is answered late -/

/-- The bytes that an operation hands out. -/
def ReaderReply.delivered : ReaderReply → Bytes
  | read (.ok outcome) => outcome.content
  | content (.ok bytes) => bytes
  | _ => []

/-- Seeks, of whichever form. -/
def ReaderOp.Seeks : ReaderOp → Prop
  | seek .. | seekNumbered .. | seekTo _ => True
  | _ => False

/-- A reply of a reader that is at its end with this error. -/
structure Inert (e : StorageError) (op : ReaderOp) (reply : ReaderReply) : Prop where
  delivers : reply.delivered = []
  read : ∀ room, op = .read room → reply = .read (.error e)
  /-- An argument that is refused is refused on any reader. -/
  seek : op.Seeks → reply = .seek (.error (op.refusal?.getD e))
  drain : op = .readToEnd → reply = .content (if e = .endOfStream then .ok [] else .error e)

theorem inert_lateReply (e : StorageError) (closed : Bool) (op : ReaderOp) : Inert e op (op.lateReply e closed) := by
  cases op with
  | read room => exact ⟨rfl, fun _ _ => rfl, nofun, nofun⟩
  | readToEnd =>
    refine ⟨?_, nofun, nofun, fun _ => rfl⟩
    show (ReaderReply.content (if e = .endOfStream then .ok [] else .error e)).delivered = []
    split <;> rfl
  | close =>
    refine ⟨?_, nofun, nofun, nofun⟩
    cases closed <;> rfl
  | _ => exact ⟨rfl, nofun, fun _ => rfl, nofun⟩

/-- Only a close looks at whether the reader was closed. -/
theorem lateReply_closed {op : ReaderOp} (hop : op ≠ .close) (e : StorageError) (closed closed' : Bool) :
    op.lateReply e closed = op.lateReply e closed' := by
  cases op with
  | close => exact absurd rfl hop
  | _ => rfl

/-- What a stream has for its first item that is made of a reader at its end with this error. -/
def lateItem (e : StorageError) (limit : Option Nat) : Option (Except StorageError Bytes) :=
  if limit = some 0 ∨ e = .endOfStream then none else some (.error e)

namespace Reader

variable {r r' : Reader} {e : StorageError} {es : List Exchange} {room : Nat}

/-! ## Readers at their end -/

/-- The reader was closed, or it has failed. -/
def Ended (r : Reader) : Prop := r.closed = true ∨ ∃ e, r.state = .failed e

/-- The error that a reader at its end answers a read with. -/
def verdict (r : Reader) : StorageError :=
  match r.state with
  | .failed e => e
  | .drained => .endOfStream
  | .ready => .closedResource

theorem verdict_failed (h : r.state = .failed e) : r.verdict = e := by rw [verdict, h]

theorem Ended.latched? (h : r.Ended) : r.latched? = some r.verdict := by
  unfold Reader.latched? verdict
  cases hstate : r.state with
  | failed e => rfl
  | drained => rfl
  | ready =>
    obtain hclosed | ⟨e, hfailed⟩ := h
    · exact if_pos hclosed
    · rw [hstate] at hfailed
      cases hfailed

theorem Ended.seekLatched? (h : r.Ended) : r.seekLatched? = some r.verdict := by
  unfold Reader.seekLatched? verdict
  cases hstate : r.state with
  | failed e => rfl
  | _ =>
    obtain hclosed | ⟨e, hfailed⟩ := h
    · exact if_pos hclosed
    · rw [hstate] at hfailed
      cases hfailed

/-- What lasts of a reader at its end is its end. -/
theorem Lasts.ended (h : r.Lasts r') (hended : r.Ended) : r'.Ended := by
  obtain hclosed | ⟨e, hfailed⟩ := hended
  · exact .inl (h.closed hclosed)
  · exact .inr ⟨e, h.state.trans hfailed⟩

theorem Lasts.verdict (h : r.Lasts r') : r'.verdict = r.verdict := by
  rw [Reader.verdict, Reader.verdict, h.state]

/-! ## How a reader comes to its end -/

theorem close_ended (r : Reader) : r.close.2.Ended := by
  refine .inl ?_
  unfold close
  split
  · assumption
  · rfl

/-- **A read that fails puts an end to its reader**, unless it has only found the end of the content. -/
theorem read_error_ended (hposition : 0 ≤ r.position) (hrun : (r.read room).Ends es (.error e, r'))
    (hend : r.Reaches ∨ e ≠ .endOfStream) : r'.Ended ∧ r'.verdict = e := by
  by_cases hreach : r.Reaches
  · have hfailed := (hreach.chunkFailure hrun).2
    exact ⟨.inr ⟨e, hfailed⟩, verdict_failed hfailed⟩
  · have hne := hend.resolve_left hreach
    obtain ⟨e', r₁, hback, hdone⟩ := read_unreached hreach room
    rw [hdone] at hrun
    obtain ⟨heq, rfl⟩ := Prod.mk.inj hrun.2
    obtain rfl := Except.error.inj heq
    cases hback with
    | latched hlatched =>
      -- an error that is latched for reads alone is the end of the content
      have hended : r.Ended := by
        unfold Reader.latched? at hlatched
        split at hlatched
        · next e' hfailed => exact .inr ⟨e', hfailed⟩
        · exact absurd (Option.some.inj hlatched).symm hne
        · split at hlatched
          · next hclosed => exact .inl hclosed
          · cases hlatched
      exact ⟨hended, Option.some.inj (hended.latched?.symm.trans hlatched)⟩
    | atEnd _ => exact absurd rfl hne
    | negative hneg => exact absurd hposition (Int.not_le.mpr hneg)

/-- **A drain that fails puts an end to its reader.** -/
theorem drainWithin_error_ended {reads : Nat} (hposition : 0 ≤ r.position)
    (hrun : (r.drainWithin reads).Ends es (.error e, r')) : r'.Ended ∧ r'.verdict = e := by
  -- along the reads: each one that brings something moves the position on, and the last one fails
  induction reads generalizing r es with
  | zero => cases hrun.2
  | succ reads ih =>
    generalize hresult : (.error e : Except StorageError Bytes) = result at hrun
    cases drainRun_of_ends hrun with
    | last _ _ => cases hresult
    | @more _ _ _ r₁ _ rest hread _ hrest =>
      have hposition₁ : 0 ≤ r₁.position := by
        rw [(read_ok hread).position]
        omega
      cases rest with
      | ok got => cases hresult
      | error e' =>
        obtain rfl := Except.error.inj hresult
        exact ih hposition₁ hrest
    | @failed _ e₁ _ hread =>
      by_cases he : e₁ = .endOfStream
      · rw [if_pos he] at hresult
        cases hresult
      · rw [if_neg he] at hresult
        obtain rfl := Except.error.inj hresult
        exact read_error_ended hposition hread (.inr he)

/-! ## What is done with a reader at its end -/

/-- **A stream of a reader at its end** asks nothing and hands out nothing. -/
theorem polls_ended (h : r.Ended) (limit : Option Nat) (n : Nat) :
    Stream.polls (n + 1) (some (r.stream limit)) =
      .done (lateItem r.verdict limit :: List.replicate n none, none) := by
  have hpoll : Stream.poll (some (r.stream limit)) = .done (lateItem r.verdict limit, none) := by
    unfold lateItem
    show (r.stream limit).next.bind _ = _
    rw [stream, Stream.next_latched h.latched?]
    split <;> rfl
  unfold Stream.polls
  rw [hpoll]
  simp only [bind_eq, done_bind, Stream.polls_none]
  rfl

/-- Two readers that are at their end with the same error answer alike, but for what they say of a close. -/
theorem late_alike {ops : List ReaderOp} {replies replies' : List ReaderReply}
    (h : List.Forall₂ (fun op reply => ∃ closed, reply = op.lateReply e closed) ops replies)
    (h' : List.Forall₂ (fun op reply => ∃ closed, reply = op.lateReply e closed) ops replies') (i : Nat)
    (hi : ops[i]? ≠ some .close) : replies[i]? = replies'[i]? := by
  induction h generalizing replies' i with
  | nil =>
    cases h'
    rfl
  | @cons op reply ops replies hreply _ ih =>
    cases h' with
    | cons hreply' hrest' =>
      cases i with
      | zero =>
        obtain ⟨closed, rfl⟩ := hreply
        obtain ⟨closed', rfl⟩ := hreply'
        exact congrArg some (lateReply_closed (fun hop => hi (congrArg some hop)) e closed closed')
      | succ i => exact ih hrest' i hi

/-- **A reader that was closed or has failed is inert.** A close puts an end to any reader. So does a read that fails
at its chunk, and any read or drain, from a position that is not negative, that fails with another error than the end
of the content; the error of the read or the drain is then the one that the reader is at its end with. From then on,
whatever is done with the reader, nothing is asked of a store, no byte is handed out, and the position stays where
it is. Every read has the same answer, which is the failure for a reader that has failed, the end of the content for
one that had found it before it was closed, and that it was closed for any other. No seek is accepted. A stream that
is made of the reader in the end has no piece. To close a reader that has failed changes none of these answers. -/
theorem ended_inert (r : Reader) :
    (r.close.2.Ended ∧ r.close.2.verdict = r.verdict ∧ r.close.2.position = r.position) ∧
    (∀ room es e r₁, 0 ≤ r.position → (r.read room).Ends es (.error e, r₁) → r.Reaches ∨ e ≠ .endOfStream →
      r₁.Ended ∧ r₁.verdict = e) ∧
    (∀ es e r₁, 0 ≤ r.position → r.readToEnd.Ends es (.error e, r₁) → r₁.Ended ∧ r₁.verdict = e) ∧
    (r.Ended → ∀ ops : List ReaderOp, ∃ replies r₁, r.history ops = .done (replies, r₁) ∧
      List.Forall₂ (Inert r.verdict) ops replies ∧ r₁.Ended ∧ r₁.verdict = r.verdict ∧ r₁.position = r.position ∧
      ∀ limit n, Stream.polls (n + 1) (some (r₁.stream limit)) =
        .done (lateItem r.verdict limit :: List.replicate n none, none)) ∧
    ∀ e, r.state = .failed e → ∀ ops : List ReaderOp, ∃ replies r₁ replies' r₂,
      r.history ops = .done (replies, r₁) ∧ r.close.2.history ops = .done (replies', r₂) ∧
      (∀ i : Nat, ops[i]? ≠ some .close → replies[i]? = replies'[i]?) ∧
      ∀ limit n, Stream.polls (n + 1) (some (r₁.stream limit)) = Stream.polls (n + 1) (some (r₂.stream limit)) := by
  refine ⟨⟨r.close_ended, r.close_lasts.verdict, r.close_lasts.position⟩, ?_, ?_, ?_, ?_⟩
  · exact fun room es e r₁ hposition hrun hend => read_error_ended hposition hrun hend
  · exact fun es e r₁ hposition hrun => drainWithin_error_ended hposition hrun
  · intro h ops
    obtain ⟨replies, r₁, hops, hlasts, hreplies⟩ := history_latched h.latched? h.seekLatched? ops
    refine ⟨replies, r₁, hops, ?_, hlasts.ended h, hlasts.verdict, hlasts.position, fun limit n => ?_⟩
    · refine hreplies.imp fun op reply hreply => ?_
      obtain ⟨closed, rfl⟩ := hreply
      exact inert_lateReply r.verdict closed op
    · rw [polls_ended (hlasts.ended h), hlasts.verdict]
  · intro e hfailed ops
    have h : r.Ended := .inr ⟨e, hfailed⟩
    obtain ⟨replies, r₁, hops, hlasts, hreplies⟩ := history_latched h.latched? h.seekLatched? ops
    have hclosed := r.close_ended
    obtain ⟨replies', r₂, hops', hlasts', hreplies'⟩ := history_latched hclosed.latched? hclosed.seekLatched? ops
    rw [r.close_lasts.verdict] at hreplies'
    refine ⟨replies, r₁, replies', r₂, hops, hops', late_alike hreplies hreplies', fun limit n => ?_⟩
    rw [polls_ended (hlasts.ended h), polls_ended (hlasts'.ended hclosed), hlasts.verdict, hlasts'.verdict,
      r.close_lasts.verdict]

/-- The reader of a file of three bytes in one chunk, which is missing from the store, and the reader that the
failure of a read or of a drain leaves: a seek with an unknown origin, a drain of the closed reader and another read
answer with errors, and so does the stream, once. -/
theorem ended_inert_missing_chunk :
    let r := new .own 3 [.ofNat 7]
    let r' : Reader := { r with state := .failed .notFound }
    let es : List Exchange := [⟨.race .own (.findChunk (.ofNat 7)), .finished (.ok none)⟩,
      ⟨.count .fetchChunk false, ()⟩]
    let ops : List ReaderOp := [.seekNumbered 0 3, .close, .readToEnd, .read 4]
    (r.read 4).Ends es (.error .notFound, r') ∧ r.readToEnd.Ends es (.error .notFound, r') ∧
      r'.Ended ∧ r'.verdict = .notFound ∧ r'.state = .failed .notFound ∧
      (∃ replies r₁, r'.history ops = .done (replies, r₁) ∧ List.Forall₂ (Inert .notFound) ops replies ∧
        Stream.polls 3 (some (r₁.stream none)) = .done ([some (.error .notFound), none, none], none)) ∧
      ∃ replies r₁ replies' r₂, r'.history ops = .done (replies, r₁) ∧ r'.close.2.history ops = .done (replies', r₂) ∧
        ∀ i : Nat, ops[i]? ≠ some .close → replies[i]? = replies'[i]? := by
  intro r r' es ops
  have hread : (r.read 4).Ends es (.error .notFound, r') := ⟨_, _, rfl, ⟨_, _, rfl, rfl, rfl⟩⟩
  have hdrain : r.readToEnd.Ends es (.error .notFound, r') := ⟨_, _, rfl, ⟨_, _, rfl, rfl, rfl⟩⟩
  have hposition : 0 ≤ r.position := Int.le_refl 0
  obtain ⟨-, hreads, hdrains, -, -⟩ := ended_inert r
  obtain ⟨hended, hverdict⟩ := hreads 4 es .notFound r' hposition hread (.inr nofun)
  have hstate : r'.state = .failed .notFound := rfl
  obtain ⟨-, -, -, hlater, hclosed⟩ := ended_inert r'
  obtain ⟨replies, r₁, hops, hinert, -, -, -, hstream⟩ := hlater (hdrains es .notFound r' hposition hdrain).1 ops
  obtain ⟨replies', r₂, replies'', r₃, hops', hops'', halike, -⟩ := hclosed .notFound hstate ops
  exact ⟨hread, hdrain, hended, hverdict, hstate, ⟨replies, r₁, hops, hinert, hstream none 2⟩,
    replies', r₂, replies'', r₃, hops', hops'', halike⟩

end Reader
end ChunkVault
