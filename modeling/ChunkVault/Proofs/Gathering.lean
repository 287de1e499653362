/-
# ChunkVault.Proofs.Gathering -- the pieces of a stream, put together, are what a drain hands out

There are two ways to get at everything from the position on. A drain reads whole chunks into memory, and stops at
the read that reports the end. A stream hands out each piece for itself and does not look at that report: it makes
one more read, and finds the end latched. So the stream reads once more than the drain, but that read asks nothing
(`next_latched`).

Nothing is assumed of the file, of the reader, or of the store: its chunks may be missing, too short or too long, the
position may lie anywhere, and the reader may have failed or been closed. The two are one operation for all that is
asked and all that comes of it (`collectWithin_gathered`), since they read with the same room and so get the same
bytes from the same reads. `drained_as_streamed` follows both through any surroundings. Memory is taken to be there:
a drain sets room aside for all that the size says is left, and a stream does not.
-/
import ChunkVault.Proofs.Slicing

namespace ChunkVault

open Program

namespace Reader

variable {r r' : Reader} {e : StorageError} {es : List Exchange}

namespace Stream

/-! ## All that a stream has handed out -/

/-- The items of a stream: its pieces, and then the failure that it ends with, if it ends with one. -/
def items (pieces : List Bytes) (failure : Option StorageError) : List (Except StorageError Bytes) :=
  pieces.map .ok ++ failure.toList.map .error

/-- What the items of a stream come to: the failure that it ends with, or else its pieces put together. -/
def gathered (pieces : List Bytes) : Option StorageError → Except StorageError Bytes
  | none => .ok pieces.flatten
  | some e => .error e

variable {pieces : List Bytes} {failure : Option StorageError}

/-- A failure is the last item of its stream, and a piece is none. -/
theorem getLast?_items : (items pieces failure).getLast? = some (.error e) ↔ failure = some e := by
  cases failure with
  | some e' => simp [items]
  | none => simp [items, List.getLast?_map]

theorem gathered_eq_ok_iff {content : Bytes} :
    gathered pieces failure = .ok content ↔ failure = none ∧ pieces.flatten = content := by
  cases failure with
  | none => simp [gathered]
  | some e' => simp [gathered]

theorem gathered_eq_error_iff : gathered pieces failure = .error e ↔ failure = some e := by
  cases failure with
  | none => simp [gathered]
  | some e' => simp [gathered]

theorem gathered_cons (piece : Bytes) (pieces : List Bytes) (failure : Option StorageError) :
    gathered (piece :: pieces) failure = (gathered pieces failure).map (piece ++ ·) := by
  cases failure with
  | none => exact congrArg Except.ok List.flatten_cons
  | some e => rfl

/-- The answers to the polls of a stream are its items, and then nothing. -/
theorem answers_eq_items {n : Nat} {s : Stream} {s' : Option Stream}
    {answers : List (Option (Except StorageError Bytes))} (hrun : (polls n (some s)).Ends es (answers, s')) :
    answers = answersOf n (items (piecesOf answers) (failureOf? answers)) ∧
      (items (piecesOf answers) (failureOf? answers)).length ≤ n := by
  induction n generalizing s es answers with
  | zero =>
    obtain ⟨rfl, -⟩ := Prod.mk.inj hrun.2
    exact ⟨rfl, Nat.le_refl 0⟩
  | succ n ih =>
    cases answers_of_polls hrun with
    | last _ _ =>
      rw [show piecesOf (none :: List.replicate n none) = [] from piecesOf_replicate n,
        show failureOf? (none :: List.replicate n none) = none from failureOf?_replicate n]
      exact ⟨(answersOf_nil (n + 1)).symm, Nat.zero_le _⟩
    | @broken _ e _ _ =>
      rw [show piecesOf (some (.error e) :: List.replicate n none) = [] from piecesOf_replicate n]
      show _ = answersOf (n + 1) [.error e] ∧ _
      rw [answersOf_cons, answersOf_nil]
      exact ⟨rfl, Nat.succ_le_succ (Nat.zero_le n)⟩
    | @piece _ _ content _ more _ hmore =>
      obtain ⟨hmore, hlength⟩ := ih hmore
      refine ⟨?_, Nat.succ_le_succ hlength⟩
      show some (.ok content) :: more =
        answersOf (n + 1) (.ok content :: items (piecesOf more) (failureOf? more))
      rw [answersOf_cons, ← hmore]

/-! ## A stream beside a drain -/

/-- The read that reports the end leaves it latched. -/
theorem latched?_of_end {room : Nat} {o : ReadOutcome} (h : r.Advances room o r') (hend : o.endOfStream = true) :
    r'.latched? = some .endOfStream := by
  have hstate : r'.state = .drained := by
    rw [h.state, if_pos (of_decide_eq_true (h.endOfStream.symm.trans hend))]
  rw [latched?, hstate]

/-- A stream that is made of a reader which has found its end has no item. -/
theorem collectWithin_drained (h : r.latched? = some .endOfStream) (n seen : Nat) :
    collectWithin (fun _ => .done ()) n seen ⟨r, none⟩ = .done ([], none) := by
  cases n with
  | zero => rfl
  | succ n =>
    unfold collectWithin
    rw [next_latched h none, if_pos (.inr rfl)]
    rfl

/-- **The items of a stream come to what a drain hands out**, and the two ask the same. -/
theorem collectWithin_gathered {n most : Nat} (hn : r.remaining < n) (hmost : r.remaining < most) (seen : Nat) :
    ((collectWithin (fun _ => .done ()) n seen ⟨r, none⟩).bind fun got => .done (gathered got.1 got.2)) =
      (r.drainWithin most).bind fun run => .done run.1 := by
  -- along the reads that both make: each but the last leaves fewer bytes to both
  induction n generalizing r most seen with
  | zero => exact absurd hn (Nat.not_lt_zero _)
  | succ n ih =>
    obtain ⟨most, rfl⟩ : ∃ k, most = k + 1 := ⟨most - 1, by omega⟩
    unfold collectWithin drainWithin next
    simp only [bind_eq, bind_assoc, reduceCtorEq, if_false]
    refine bind_congr_of_ends fun es answer hread => ?_
    obtain ⟨result, r₁⟩ := answer
    cases result with
    | error e => cases e <;> rfl
    | ok o =>
      have hadvances := read_ok hread
      have hpos := hadvances.progress chunkSize_pos
      obtain ⟨hleft, hsome⟩ := hadvances.remaining
      have hpiece : o.content.isEmpty = false := List.isEmpty_eq_false_iff.mpr (List.length_pos_iff.mp hpos)
      simp only [hpiece, Bool.false_eq_true, if_false, pure_eq, done_bind, bind_assoc, Option.map_none]
      cases hend : o.endOfStream with
      | true =>
        -- the drain stops here, and the stream has nothing more
        rw [collectWithin_drained (latched?_of_end hadvances hend)]
        show done (Except.ok [o.content].flatten) = done (Except.ok o.content)
        rw [List.flatten_singleton]
      | false =>
        have hless : r₁.remaining < n ∧ r₁.remaining < most := by omega
        have hrest := ih hless.1 hless.2 (seen + 1)
        have hjoined := congrArg (Program.bind · fun result => done (result.map (o.content ++ ·))) hrest
        simp only [Program.bind_assoc, done_bind, ← gathered_cons] at hjoined
        simp only [Bool.false_eq_true, if_false, Program.bind_assoc, done_bind]
        exact hjoined

/-- A stream has no more pieces than there were bytes left for its reader, however many may be taken. -/
theorem collectWithin_eq {n most : Nat} {s : Stream} (hn : s.reader.remaining < n) (hmost : s.reader.remaining < most)
    (seen seen' : Nat) :
    collectWithin (fun _ => .done ()) n seen s = collectWithin (fun _ => .done ()) most seen' s := by
  induction n generalizing s most seen seen' with
  | zero => exact absurd hn (Nat.not_lt_zero _)
  | succ n ih =>
    obtain ⟨most, rfl⟩ : ∃ k, most = k + 1 := ⟨most - 1, by omega⟩
    unfold collectWithin
    simp only [bind_eq]
    refine bind_congr_of_ends fun es item hnext => ?_
    cases item with
    | last => rfl
    | broken e => rfl
    | piece content rest =>
      obtain ⟨o, r', hadvances, hzero, rfl, rfl⟩ := next_piece hnext
      have hpos := hadvances.progress (room_pos hzero)
      obtain ⟨hleft, hsome⟩ := hadvances.remaining
      have hless : r'.remaining < n ∧ r'.remaining < most := by omega
      simp only [done_bind]
      rw [ih hless.1 hless.2 (seen + 1) (seen' + 1)]

/-- Taking all of its pieces is polling a stream to its end, and as often as one likes after that. -/
theorem collect_eq_polls {n : Nat} {s : Stream} (hn : s.reader.remaining < n) :
    (s.collect fun _ => .done ()) = (polls n (some s)).bind fun got => .done (piecesOf got.1, failureOf? got.1) := by
  rw [← collectWithin_eq_polls n 0]
  exact collectWithin_eq (Nat.lt_succ_self _) hn 0 0

/-- **What a stream has handed out by its end comes to what a drain hands out**, and the two ask the same. -/
theorem polls_gathered {n : Nat} (hn : r.remaining < n) :
    ((polls n (some (r.stream none))).bind fun got => .done (gathered (piecesOf got.1) (failureOf? got.1))) =
      r.readToEnd.bind fun run => .done run.1 := by
  rw [readToEnd, ← collectWithin_gathered hn (Nat.lt_succ_self _) 0, collectWithin_eq_polls, bind_assoc]
  rfl

end Stream

/-- **What is drained is what is streamed.** Take a reader in any state, and let it be drained, and streamed without a
limit, in surroundings that answer each query as they like, by all that was asked before. The stream has come to its
end within as many polls as there were bytes left, and one; it has handed out its pieces, and then a failure if it
ends with one. The drain ends with some content if and only if the stream does not fail and its pieces together are
that content, and it fails if and only if the last item of the stream is the same failure. Both have asked the same
and were answered the same. So they have made the same fetches in the same order, and leave their surroundings
alike. -/
theorem drained_as_streamed {ω : Type} (answer : (q : Query) → ω → q.Answer × ω) (r : Reader) (w : ω) {n : Nat}
    (hn : r.remaining < n) :
    let drained := r.readToEnd.run answer w
    let streamed := (Stream.polls n (some (r.stream none))).run answer w
    ∃ pieces failure,
      ((r.stream none).collect fun _ => .done ()).run answer w = ((pieces, failure), streamed.2) ∧
      streamed.1 = (Stream.answersOf n (Stream.items pieces failure), none) ∧
      (Stream.items pieces failure).length ≤ n ∧
      (∀ content, drained.1.1 = .ok content ↔ failure = none ∧ pieces.flatten = content) ∧
      (∀ e, drained.1.1 = .error e ↔ (Stream.items pieces failure).getLast? = some (.error e)) ∧
      ∃ es, r.readToEnd.Ends es drained.1 ∧ (Stream.polls n (some (r.stream none))).Ends es streamed.1 ∧
        Along (Answering answer) w es drained.2 ∧ streamed.2 = drained.2 := by
  intro drained streamed
  -- the run of the drain is one of the stream
  obtain ⟨es, hdrain, halong⟩ := run_ends answer r.readToEnd w
  obtain ⟨got, hstream, hgathered⟩ := ends_of_bind_done_eq (Stream.polls_gathered hn).symm hdrain
  have hstreamed : streamed = (got, drained.2) := run_eq_of_ends hstream halong
  obtain ⟨answers, s'⟩ := got
  obtain rfl : s' = none := Stream.polls_end hn hstream
  obtain ⟨hitems, hlength⟩ := Stream.answers_eq_items hstream
  refine ⟨Stream.piecesOf answers, Stream.failureOf? answers, ?_, ?_, hlength, fun content => ?_, fun e => ?_, es,
    hdrain, ?_, halong, ?_⟩
  · rw [Stream.collect_eq_polls hn, run_bind, show (Stream.polls n _).run answer w = _ from hstreamed, hstreamed]
    rfl
  · rw [hstreamed]
    exact congrArg (·, none) hitems
  · rw [hgathered]
    exact Stream.gathered_eq_ok_iff
  · rw [hgathered, Stream.getLast?_items]
    exact Stream.gathered_eq_error_iff
  · rw [hstreamed]
    exact hstream
  · rw [hstreamed]

/-- A file is said to have three bytes, and its chunk has two. The stream hands them out before it fails; the drain
fails alike, and keeps them to itself. -/
theorem drained_as_streamed_short_chunk :
    let r := new .own 3 [.ofNat 7]
    let b := Bench.new (.memory { Memory.Store.empty with tables := ⟨[], [⟨.ofNat 7, .ofNat 1, [97, 98]⟩]⟩ })
    let drained := r.readToEnd.run Bench.answer b
    let streamed := (Stream.polls 4 (some (r.stream none))).run Bench.answer b
    r.remaining < 4 ∧
      streamed.1 = ([some (.ok [97, 98]), some (.error r.tooShort), none, none], none) ∧
      drained.1.1 = .error r.tooShort ∧
      ∃ es, r.readToEnd.Ends es drained.1 ∧ (Stream.polls 4 (some (r.stream none))).Ends es streamed.1 := by
  intro r b drained streamed
  have hn : r.remaining < 4 := by decide
  have htaken : (((r.stream none).collect fun _ => .done ()).run Bench.answer b).1 = ([[97, 98]], some r.tooShort) := by
    decide
  obtain ⟨pieces, failure, hcollect, hanswers, -, -, herror, es, hdrain, hstream, -, -⟩ :=
    drained_as_streamed Bench.answer r b hn
  rw [hcollect] at htaken
  obtain ⟨rfl, rfl⟩ := Prod.mk.inj htaken
  exact ⟨hn, hanswers, (herror r.tooShort).mpr rfl, es, hdrain, hstream⟩

end Reader
end ChunkVault
