/-
# ChunkVault.Proofs.Polling -- a stream, asked for one item after another

Whoever takes a stream asks it for its next item, again and again (`polls`), and may stop at any time. On any
store a stream has come to its end after as many polls as there were bytes left for its reader, and one
(`polls_end`); it never hands out more than its limit (`polls_within`), and one that ends without a failure has
handed out all that it had to (`polls_complete`). Taking all of its pieces is polling it to its end
(`collectWithin_eq_polls`).

`drains_complete` puts this beside what is known of drains, for a reader with any history.
-/
import ChunkVault.Proofs.Progress
import ChunkVault.Proofs.Streaming

namespace ChunkVault

open Program

namespace Reader

variable {r r' : Reader} {es : List Exchange}

namespace Stream

variable {s s' : Option Stream} {limit : Option Nat} {answers : List (Option (Except StorageError Bytes))}

/-- Asks a stream for its next item: a piece, a failure, or nothing. It has nothing more to give once it has
had nothing to give, and once it has failed. -/
def poll : Option Stream → Program (Option (Except StorageError Bytes) × Option Stream)
  | none => return (none, none)
  | some s => do
    match ← s.next with
    | .last => return (none, none)
    | .broken e => return (some (.error e), none)
    | .piece content rest => return (some (.ok content), some rest)

/-- Asks a stream for an item so many times. Each time one read at most is made. -/
def polls : (n : Nat) → Option Stream →
    Program (List (Option (Except StorageError Bytes)) × Option Stream)
  | 0, s => return ([], s)
  | n + 1, s => do
    let (answer, s) ← poll s
    let (answers, s) ← polls n s
    return (answer :: answers, s)

/-- The pieces among the answers of a stream. -/
def piecesOf (answers : List (Option (Except StorageError Bytes))) : List Bytes :=
  answers.filterMap fun
    | some (.ok piece) => some piece
    | _ => none

/-- The failure among the answers of a stream, if there is one. -/
def failureOf? (answers : List (Option (Except StorageError Bytes))) : Option StorageError :=
  answers.findSome? fun
    | some (.error e) => some e
    | _ => none

/-- The number of bytes that a stream has to hand out: all that are left, up to its limit. -/
def due (s : Stream) : Nat :=
  match s.limit with
  | none => s.reader.remaining
  | some most => min most s.reader.remaining

theorem polls_none (n : Nat) : polls n none = .done (List.replicate n none, none) := by
  induction n with
  | zero => rfl
  | succ n ih =>
    show (polls n none).bind _ = _
    rw [ih]
    rfl

/-- What a stream has next that is made of a reader that has latched an error for every read: nothing is asked for
it. -/
theorem next_latched {e : StorageError} (h : r.latched? = some e) (limit : Option Nat) :
    (Stream.mk r limit).next = .done (if limit = some 0 ∨ e = .endOfStream then .last else .broken e) := by
  unfold next
  by_cases hzero : limit = some 0
  · rw [if_pos (show (Stream.mk r limit).limit = some 0 from hzero), if_pos (.inl hzero)]
    rfl
  · rw [if_neg (show ¬(Stream.mk r limit).limit = some 0 from hzero)]
    show (r.read _).bind _ = _
    rw [read_latched h]
    cases e with
    | endOfStream => exact congrArg done (if_pos (.inr rfl)).symm
    | _ =>
      rw [if_neg (not_or.mpr ⟨hzero, nofun⟩)]
      rfl

/-- What a stream has next is a piece that a read has handed out, and the stream that is left. -/
theorem next_piece {content : Bytes} {rest : Stream} (hrun : (Stream.mk r limit).next.Ends es (.piece content rest)) :
    ∃ o r', r.Advances (Stream.mk r limit).room o r' ∧ limit ≠ some 0 ∧ content = o.content ∧
      rest = ⟨r', limit.map (· - o.content.length)⟩ := by
  generalize hitem : Item.piece content rest = item at hrun
  cases nextRun_of_ends hrun with
  | spent _ => cases hitem
  | @piece _ o r' hlimit hread =>
    obtain ⟨rfl, rfl⟩ := Item.piece.inj hitem
    exact ⟨o, r', read_ok hread, hlimit, rfl, rfl⟩
  | failed _ _ => split at hitem <;> cases hitem

/-- Nothing is left of a stream that ends, if the end is not the failure of a fetch. -/
theorem next_last (hr : r.DrainedAtEnd) (hunfailed : r.Unfailed) (hrun : (Stream.mk r limit).next.Ends es .last)
    (hes : ∀ x ∈ es, x.fetchError? ≠ some .endOfStream) : (Stream.mk r limit).due = 0 := by
  generalize hitem : Item.last = item at hrun
  cases nextRun_of_ends hrun with
  | spent hzero =>
    obtain rfl : limit = some 0 := hzero
    exact Nat.zero_min _
  | piece _ _ => cases hitem
  | @failed _ e _ _ hread =>
    have he : e = .endOfStream := by
      by_contra hne
      rw [if_neg hne] at hitem
      cases hitem
    subst he
    have hend := read_endOfStream hr hunfailed hread hes
    have hnone : r.remaining = 0 := by rw [remaining]; omega
    unfold due
    cases limit with
    | none => exact hnone
    | some most =>
      show min most r.remaining = 0
      rw [hnone, Nat.min_zero]

/-- How the answers to the polls of a stream begin, and how they go on: there is nothing after an end or a
failure, and what is left of the stream is asked after a piece. -/
inductive Answers (s : Stream) (n : Nat) (s' : Option Stream) :
    List Exchange → List (Option (Except StorageError Bytes)) → Prop
  | last {es : List Exchange} (hnext : s.next.Ends es .last) (hended : s' = none) :
      Answers s n s' es (none :: List.replicate n none)
  | broken {es : List Exchange} {e : StorageError} (hnext : s.next.Ends es (.broken e)) (hended : s' = none) :
      Answers s n s' es (some (.error e) :: List.replicate n none)
  | piece {es₁ es₂ : List Exchange} {content : Bytes} {rest : Stream}
      {more : List (Option (Except StorageError Bytes))} (hnext : s.next.Ends es₁ (.piece content rest))
      (hmore : (polls n (some rest)).Ends es₂ (more, s')) :
      Answers s n s' (es₁ ++ es₂) (some (.ok content) :: more)

theorem answers_of_polls {s : Stream} {n : Nat} (hrun : (polls (n + 1) (some s)).Ends es (answers, s')) :
    s.Answers n s' es answers := by
  obtain ⟨_, es₂, ⟨answer, s₁⟩, rfl, hpoll, hrun⟩ := ends_bind.mp hrun
  obtain ⟨⟨more, s₂⟩, hmore, heq⟩ := ends_bind_done.mp hrun
  obtain ⟨rfl, rfl⟩ := Prod.mk.inj heq
  obtain ⟨es₁, es₃, item, rfl, hnext, hitem⟩ := ends_bind.mp hpoll
  cases item with
  | last =>
    obtain ⟨rfl, heq⟩ := hitem
    obtain ⟨rfl, rfl⟩ := Prod.mk.inj heq
    rw [polls_none] at hmore
    obtain ⟨rfl, heq⟩ := hmore
    obtain ⟨rfl, rfl⟩ := Prod.mk.inj heq
    simp only [List.append_nil]
    exact .last hnext rfl
  | broken e =>
    obtain ⟨rfl, heq⟩ := hitem
    obtain ⟨rfl, rfl⟩ := Prod.mk.inj heq
    rw [polls_none] at hmore
    obtain ⟨rfl, heq⟩ := hmore
    obtain ⟨rfl, rfl⟩ := Prod.mk.inj heq
    simp only [List.append_nil]
    exact .broken hnext rfl
  | piece content rest =>
    obtain ⟨rfl, heq⟩ := hitem
    obtain ⟨rfl, rfl⟩ := Prod.mk.inj heq
    simp only [List.append_nil]
    exact .piece hnext hmore

theorem piecesOf_replicate (n : Nat) : piecesOf (List.replicate n none) = [] := by
  induction n with
  | zero => rfl
  | succ n ih => exact ih

theorem failureOf?_replicate (n : Nat) : failureOf? (List.replicate n none) = none := by
  induction n with
  | zero => rfl
  | succ n ih => exact ih

/-- **A stream comes to its end** after no more pieces than there were bytes left for its reader. -/
theorem polls_end {n : Nat} (hn : r.remaining < n)
    (hrun : (polls n (some ⟨r, limit⟩)).Ends es (answers, s')) : s' = none := by
  induction n generalizing r limit es answers with
  | zero => exact absurd hn (Nat.not_lt_zero _)
  | succ n ih =>
    cases answers_of_polls hrun with
    | last _ hended => exact hended
    | broken _ hended => exact hended
    | piece hnext hmore =>
      obtain ⟨o, r', hadvances, hzero, rfl, rfl⟩ := next_piece hnext
      have hpos := hadvances.progress (room_pos hzero)
      obtain ⟨hleft, hsome⟩ := hadvances.remaining
      exact ih (by omega) hmore

/-- **A stream keeps to its limit.** -/
theorem polls_within {n most : Nat} (hrun : (polls n (some ⟨r, some most⟩)).Ends es (answers, s')) :
    (piecesOf answers).flatten.length ≤ most := by
  induction n generalizing r most es answers with
  | zero =>
    obtain ⟨rfl, -⟩ := Prod.mk.inj hrun.2
    exact Nat.zero_le _
  | succ n ih =>
    cases answers_of_polls hrun with
    | last _ _ =>
      show (piecesOf (List.replicate n none)).flatten.length ≤ most
      rw [piecesOf_replicate]
      exact Nat.zero_le _
    | broken _ _ =>
      show (piecesOf (List.replicate n none)).flatten.length ≤ most
      rw [piecesOf_replicate]
      exact Nat.zero_le _
    | @piece _ _ _ _ more hnext hmore =>
      obtain ⟨o, r', hadvances, hzero, rfl, rfl⟩ := next_piece hnext
      have hroom : o.content.length ≤ most := Nat.le_trans hadvances.within (room_le_limit rfl)
      have hrest : (piecesOf more).flatten.length ≤ most - o.content.length := ih hmore
      show (o.content :: piecesOf more).flatten.length ≤ most
      rw [List.flatten_cons, List.length_append]
      omega

/-- **A stream that ends without a failure has handed out all that it had to.** -/
theorem polls_complete {n : Nat} (hr : r.DrainedAtEnd) (hunfailed : r.Unfailed)
    (hrun : (polls n (some ⟨r, limit⟩)).Ends es (answers, none)) (hwhole : failureOf? answers = none)
    (hes : ∀ x ∈ es, x.fetchError? ≠ some .endOfStream) :
    (Stream.mk r limit).due ≤ (piecesOf answers).flatten.length := by
  induction n generalizing r limit es answers with
  | zero => cases hrun.2
  | succ n ih =>
    generalize hs : (none : Option Stream) = s' at hrun
    cases answers_of_polls hrun with
    | last hnext _ =>
      rw [next_last hr hunfailed hnext hes]
      exact Nat.zero_le _
    | broken _ _ => cases hwhole
    | @piece es₁ es₂ _ _ more hnext hmore =>
      obtain ⟨o, r', hadvances, hzero, rfl, rfl⟩ := next_piece hnext
      subst hs
      have hrest := ih hadvances.drainedAtEnd hadvances.unfailed hmore hwhole fun x hx =>
        hes x (List.mem_append_right _ hx)
      obtain ⟨hleft, hsome⟩ := hadvances.remaining
      show (Stream.mk r limit).due ≤ (o.content :: piecesOf more).flatten.length
      rw [List.flatten_cons, List.length_append]
      unfold due at hrest ⊢
      cases limit with
      | none =>
        simp only [Option.map_none] at hrest ⊢
        omega
      | some most =>
        simp only [Option.map_some] at hrest ⊢
        omega

/-- Taking all pieces of a stream is polling it, and leaving out what is no piece. -/
theorem collectWithin_eq_polls (n seen : Nat) (s : Stream) :
    collectWithin (fun _ => .done ()) n seen s =
      (polls n (some s)).bind fun got => .done (piecesOf got.1, failureOf? got.1) := by
  induction n generalizing seen s with
  | zero => rfl
  | succ n ih =>
    unfold collectWithin polls poll
    simp only [bind_eq, bind_assoc]
    refine congrArg s.next.bind (funext fun item => ?_)
    cases item with
    | last =>
      simp only [pure_eq, done_bind, polls_none]
      exact congrArg done (Prod.ext (piecesOf_replicate n).symm (failureOf?_replicate n).symm)
    | broken e =>
      simp only [pure_eq, done_bind, polls_none]
      exact congrArg done (Prod.ext (piecesOf_replicate n).symm rfl)
    | piece content rest =>
      simp only [pure_eq, done_bind, ih, bind_assoc]
      rfl

end Stream

/-! ## Any store, any history -/

/-- **No drain goes on for ever, and none is cut short.** Take a reader of any file, after any history, over any
store. Each of its reads fails, or hands out a byte at least if there is room for one. A drain comes to its end
within as many reads as there are bytes left, and one, and if that end is no error, they have all been handed
out. A stream does so within as many polls, up to its limit, and never goes beyond that. For the latter it takes a
reader that has not failed before, and a store that does not answer a fetch with the end of the stream for an
error. -/
theorem drains_complete {token : Token} {size : Int} {ids : List Uuid} {ops : List ReaderOp}
    {replies : List ReaderReply} (hhistory : ((new token size ids).history ops).Ends es (replies, r)) :
    (∀ room es₁ o r₁, 0 < room → (r.read room).Ends es₁ (.ok o, r₁) → 0 < o.content.length) ∧
    (∀ reads, r.remaining + 1 ≤ reads →
      r.drainUpTo reads = r.readToEnd.bind fun answer => .done (some answer)) ∧
    (∀ es₁ got r₁, r.readToEnd.Ends es₁ (.ok got, r₁) → r.Unfailed →
      (∀ x ∈ es₁, x.fetchError? ≠ some .endOfStream) → r.remaining ≤ got.length) ∧
    ∀ limit,
      ((r.stream limit).collect (fun _ => .done ()) =
        (Stream.polls (r.remaining + 1) (some (r.stream limit))).bind fun got =>
          .done (Stream.piecesOf got.1, Stream.failureOf? got.1)) ∧
      ∀ n es₁ answers s, (Stream.polls n (some (r.stream limit))).Ends es₁ (answers, s) →
        (r.remaining + 1 ≤ n → s = none) ∧
        (∀ most, limit = some most → (Stream.piecesOf answers).flatten.length ≤ most) ∧
        (s = none → Stream.failureOf? answers = none → r.Unfailed →
          (∀ x ∈ es₁, x.fetchError? ≠ some .endOfStream) →
          (r.stream limit).due ≤ (Stream.piecesOf answers).flatten.length) := by
  have hr : r.DrainedAtEnd := history_drainedAtEnd (r := new token size ids) nofun hhistory
  refine ⟨?_, ?_, ?_, ?_⟩
  · intro room es₁ o r₁ hroom hread
    exact (read_ok hread).progress hroom
  · intro reads hreads
    exact drainUpTo_eq hreads (Nat.lt_succ_self _)
  · intro es₁ got r₁ hdrain hunfailed hes
    exact drainWithin_complete hr hunfailed (Nat.lt_succ_self _) hdrain hes
  · intro limit
    refine ⟨Stream.collectWithin_eq_polls _ 0 _, fun n es₁ answers s hrun => ⟨?_, ?_, ?_⟩⟩
    · exact fun hn => Stream.polls_end hn hrun
    · rintro most rfl
      exact Stream.polls_within hrun
    · rintro rfl hwhole hunfailed hes
      exact Stream.polls_complete hr hunfailed hrun hwhole hes

/-- A file is said to have three bytes, and is read from the second one on. The store has one byte too many in
its chunk, and the drain hands it out too; the stream with a limit of one byte does not. -/
theorem drains_complete_chunk_too_long :
    let r : Reader := { new .own 3 [.ofNat 7] with position := 1 }
    let es : List Exchange := [⟨.race .own (.findChunk (.ofNat 7)), .finished (.ok (some [97, 98, 99, 100]))⟩,
      ⟨.count .fetchChunk false, ()⟩]
    ((new .own 3 [.ofNat 7]).history [.seek 1 .start]).Ends [] ([.seek (.ok 1)], r) ∧
      (∃ r₁, r.readToEnd.Ends es (.ok [98, 99, 100], r₁)) ∧ r.remaining ≤ 3 ∧
      (Stream.polls 3 (some (r.stream (some 1)))).Ends es ([some (.ok [98]), none, none], none) ∧
      (r.stream (some 1)).due ≤ 1 := by
  intro r es
  have hhistory : ((new .own 3 [.ofNat 7]).history [.seek 1 .start]).Ends [] ([.seek (.ok 1)], r) :=
    ⟨rfl, rfl⟩
  have hdrain : ∃ r₁, r.readToEnd.Ends es (.ok [98, 99, 100], r₁) :=
    ⟨_, _, _, rfl, _, _, rfl, rfl, rfl⟩
  have hstream : (Stream.polls 3 (some (r.stream (some 1)))).Ends es ([some (.ok [98]), none, none], none) :=
    ⟨_, _, rfl, _, _, rfl, rfl, rfl⟩
  have hes : ∀ x ∈ es, x.fetchError? ≠ some .endOfStream := by
    intro x hx
    rcases List.mem_cons.mp hx with rfl | hx
    · exact nofun
    · rw [List.mem_singleton.mp hx]
      exact nofun
  obtain ⟨-, -, hwhole, hstreams⟩ := drains_complete hhistory
  obtain ⟨r₁, hdrain⟩ := hdrain
  refine ⟨hhistory, ⟨r₁, hdrain⟩, hwhole es _ r₁ hdrain nofun hes, hstream, ?_⟩
  exact ((hstreams (some 1)).2 3 es _ none hstream).2.2 rfl rfl nofun hes

end Reader
end ChunkVault
