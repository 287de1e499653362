/-
# ChunkVault.Proofs.Streaming -- the pieces of a stream

A stream reads on from where its reader stands, until the content ends or its limit is reached. What it has next
is what its read comes to (`nextRun_of_ends`), a piece of what is left (`next_tracks`), so all of its pieces together
are what was left, up to the limit (`collect_tracks`). It does not fail where each fetch is answered with the chunk
in question.
-/
import ChunkVault.Proofs.Drain
import ChunkVault.Proofs.Progress

namespace ChunkVault

open Program

/-- A cursor that can be read on: it is open, and only at the end has it reported the end. -/
structure Cursor.Readable (content : Bytes) (c : Cursor) : Prop where
  closed : c.closed = false
  drained : c.drained = true → content.length ≤ c.position

namespace Cursor.Readable

variable {content : Bytes} {c : Cursor}

theorem undrained (hc : Readable content c) (h : c.position < content.length) : c.drained = false :=
  Bool.eq_false_iff.mpr fun hd => Nat.not_le.mpr h (hc.drained hd)

theorem read (hc : Readable content c) (room : Nat) : Readable content (c.read content room).2 := by
  unfold Cursor.read
  split
  · exact hc
  · split
    · exact hc
    · split
      · next hend => exact ⟨hc.closed, fun _ => hend⟩
      · exact ⟨hc.closed, fun hd => Nat.le_of_eq (of_decide_eq_true hd).symm⟩

/-- From the end on a read finds the end, whether or not one before it has. -/
theorem read_of_le (hc : Readable content c) (h : content.length ≤ c.position) (room : Nat) :
    (c.read content room).1 = .error .endOfStream ∧ (c.read content room).2.position = c.position := by
  cases hd : c.drained with
  | true =>
    rw [Cursor.read, if_pos hd]
    exact ⟨rfl, rfl⟩
  | false =>
    rw [Cursor.read_of_le hd hc.closed h]
    exact ⟨rfl, rfl⟩

theorem seek (hc : Readable content c) (offset : Int) (whence : Whence) :
    Readable content (c.seek content offset whence).2 := by
  unfold Cursor.seek
  split
  · exact hc
  · simp only
    split
    · exact ⟨hc.closed, nofun⟩
    · exact hc

/-- Only a close puts an end to reading on. -/
theorem perform (hc : Readable content c) {op : CursorOp} (hop : op ≠ .close) :
    Readable content (c.perform content op).2 := by
  cases op with
  | read buffer => exact hc.read buffer.length
  | seek offset whence => exact hc.seek offset whence
  | close => exact absurd rfl hop

end Cursor.Readable

namespace Reader

/-! ## The queries of a stream -/

/-- A stream asks what its read asks. -/
theorem Stream.asks_of_read {Q : Query → Prop} {s : Stream} (h : (s.reader.read s.room).Asks Q) : s.next.Asks Q := by
  unfold next
  split
  · exact trivial
  · refine h.bind fun answer => ?_
    split
    · split <;> exact trivial
    · exact trivial
    · exact trivial

theorem Stream.next_asks (s : Stream) : s.next.Asks Query.Fetches := asks_of_read (s.reader.read_asks s.room)

theorem Stream.collectWithin_asks (pieces seen : Nat) (s : Stream) :
    (Stream.collectWithin (fun _ => .done ()) pieces seen s).Asks Query.Fetches := by
  induction pieces generalizing seen s with
  | zero => exact trivial
  | succ pieces ih =>
    refine s.next_asks.bind fun item => ?_
    cases item with
    | last => exact trivial
    | broken e => exact trivial
    | piece content rest => exact (ih (seen + 1) rest).bind fun _ => trivial

/-! ## The room of a piece -/

theorem Stream.room_pos {s : Stream} (h : s.limit ≠ some 0) : 0 < s.room := by
  unfold room
  split
  · exact chunkSize_pos
  · next n hlimit =>
    have hn : n ≠ 0 := fun hzero => h (hzero ▸ hlimit)
    exact Nat.lt_min.mpr ⟨Nat.pos_of_ne_zero hn, chunkSize_pos⟩

theorem Stream.room_le_limit {s : Stream} {most : Nat} (h : s.limit = some most) : s.room ≤ most := by
  unfold room
  rw [h]
  exact Nat.min_le_left _ _

/-! ## What a stream has next -/

/-- How a stream comes by what it has next, by what its read comes to. -/
inductive Stream.NextRun (s : Stream) : List Exchange → Item → Prop
  /-- The limit is reached, and nothing is read. -/
  | spent (hzero : s.limit = some 0) : NextRun s [] .last
  /-- The read brings bytes. -/
  | piece {es : List Exchange} {o : ReadOutcome} {r' : Reader} (hlimit : s.limit ≠ some 0)
      (hread : (s.reader.read s.room).Ends es (.ok o, r')) :
      NextRun s es (.piece o.content ⟨r', s.limit.map (· - o.content.length)⟩)
  /-- The read fails, and so does the stream, unless that is the end of the content. -/
  | failed {es : List Exchange} {e : StorageError} {r' : Reader} (hlimit : s.limit ≠ some 0)
      (hread : (s.reader.read s.room).Ends es (.error e, r')) :
      NextRun s es (if e = .endOfStream then .last else .broken e)

/-- **What a stream has next** is what its read comes to. Since there is room for a byte, a read that succeeds is
never the end. -/
theorem Stream.nextRun_of_ends {s : Stream} {es : List Exchange} {item : Item} (hrun : s.next.Ends es item) :
    s.NextRun es item := by
  unfold next at hrun
  split at hrun
  · next hzero =>
    obtain ⟨rfl, rfl⟩ := hrun
    exact .spent hzero
  · next hlimit =>
    obtain ⟨es₁, es₂, ⟨answer, r'⟩, rfl, hread, hrun⟩ := ends_bind.mp hrun
    cases answer with
    | ok o =>
      have hpos := (read_ok hread).progress (room_pos hlimit)
      have hsome : o.content.isEmpty = false := List.isEmpty_eq_false_iff.mpr (List.length_pos_iff.mp hpos)
      simp only [hsome, Bool.false_eq_true, if_false] at hrun
      obtain ⟨rfl, rfl⟩ := hrun
      rw [List.append_nil]
      exact .piece hlimit hread
    | error e =>
      have hdone : es₂ = [] ∧ item = if e = .endOfStream then .last else .broken e := by
        cases e <;> exact hrun
      obtain ⟨rfl, rfl⟩ := hdone
      rw [List.append_nil]
      exact .failed hlimit hread

/-! ## What is left of the content -/

/-- The front of some content that a limit leaves. -/
def upTo (limit : Option Nat) (content : Bytes) : Bytes :=
  match limit with
  | none => content
  | some n => content.take n

/-- A piece that the limit allows comes off the front. -/
theorem upTo_eq_append {limit : Option Nat} {n : Nat} (hlimit : ∀ most, limit = some most → n ≤ most)
    (content : Bytes) :
    upTo limit content = content.take n ++ upTo (limit.map (· - n)) (content.drop n) := by
  cases limit with
  | none => exact (List.take_append_drop n content).symm
  | some most =>
    have hn := hlimit most rfl
    show content.take most = content.take n ++ (content.drop n).take (most - n)
    rw [← List.take_add, Nat.add_sub_cancel' hn]

theorem upTo_nil (limit : Option Nat) : upTo limit [] = [] := by
  cases limit with
  | none => rfl
  | some n => exact List.take_nil

variable {content : Bytes} {token : Token} {ids : List Uuid} {r : Reader} {c : Cursor} {limit : Option Nat}
  {es : List Exchange}

/-- What a stream has next, where its reader stands for this cursor, and there is so much room. -/
inductive Handed (content : Bytes) (token : Token) (ids : List Uuid) (c : Cursor) (limit : Option Nat)
    (room : Nat) : Item → Prop
  /-- Nothing is left. -/
  | last (hnone : upTo limit (content.drop c.position) = []) : Handed content token ids c limit room .last
  /-- The bytes at the position that a read grants, no more than the limit allows. -/
  | piece {n : Nat} {r' : Reader} {c' : Cursor} (hgrant : n = c.grant content room) (hpos : 0 < n)
      (hleft : n ≤ content.length - c.position) (hlimit : ∀ most, limit = some most → n ≤ most)
      (htracks : r'.Tracks content token ids c') (hmoved : c'.position = c.position + n)
      (hreadable : Cursor.Readable content c') :
      Handed content token ids c limit room
        (.piece ((content.drop c.position).take n) ⟨r', limit.map (· - n)⟩)

/-- **What a stream has next is a piece of what is left**, or the end if nothing is. -/
theorem Stream.next_tracks (hids : ids.length = (pieces content).length) {item : Item}
    (h : r.Tracks content token ids c) (hc : Cursor.Readable content c)
    (hrun : (Stream.mk r limit).next.Ends es item)
    (hserved : ∀ x ∈ es, x.Serves token ids (pieces content)) :
    Handed content token ids c limit (Stream.mk r limit).room item := by
  cases nextRun_of_ends hrun with
  | spent hzero =>
    obtain rfl : limit = some 0 := hzero
    exact .last rfl
  | @failed _ e _ _ hread =>
    obtain ⟨herror, -⟩ := read_tracks hids h hread hserved
    by_cases hp : content.length ≤ c.position
    · obtain rfl := Except.error.inj (herror.trans (hc.read_of_le hp _).1)
      rw [if_pos rfl]
      refine .last ?_
      rw [List.drop_of_length_le hp, upTo_nil]
    · have hlt := Nat.lt_of_not_le hp
      rw [Cursor.read_of_lt (hc.undrained hlt) hc.closed hlt] at herror
      cases herror
  | @piece _ o r' hzero hread =>
    obtain ⟨hanswer, h'⟩ := read_tracks hids h hread hserved
    by_cases hp : content.length ≤ c.position
    · rw [(hc.read_of_le hp _).1] at hanswer
      cases hanswer
    · have hlt := Nat.lt_of_not_le hp
      have hle := Cursor.grant_le content c (Stream.mk r limit).room
      have hpos := Cursor.grant_pos (room_pos hzero) hlt
      have hgrant : c.grant content (Stream.mk r limit).room ≤ (Stream.mk r limit).room := Nat.min_le_left _ _
      rw [Cursor.read_of_lt (hc.undrained hlt) hc.closed hlt] at hanswer h'
      generalize hn : c.grant content (Stream.mk r limit).room = n at hanswer h' hle hpos hgrant
      obtain rfl := Except.ok.inj hanswer
      have hlength : ((content.drop c.position).take n).length = n := by
        rw [List.length_take, List.length_drop, Nat.min_eq_left hle]
      simp only [hlength]
      exact .piece hn.symm hpos hle (fun most heq => Nat.le_trans hgrant (room_le_limit heq)) h' rfl
        ⟨hc.closed, fun hend => Nat.le_of_eq (of_decide_eq_true hend).symm⟩

/-! ## All pieces -/

theorem Stream.collectWithin_tracks (hids : ids.length = (pieces content).length) {most seen : Nat}
    {answer : List Bytes × Option StorageError} (h : r.Tracks content token ids c)
    (hc : Cursor.Readable content c) (hmost : content.length - c.position < most)
    (hrun : (Stream.collectWithin (fun _ => .done ()) most seen ⟨r, limit⟩).Ends es answer)
    (hserved : ∀ x ∈ es, x.Serves token ids (pieces content)) :
    answer.1.flatten = upTo limit (content.drop c.position) ∧ answer.2 = none := by
  -- along the pieces: each leaves less of the content, and so fewer pieces than may still be taken
  induction most generalizing r c limit seen es answer with
  | zero => exact absurd hmost (Nat.not_lt_zero _)
  | succ most ih =>
    unfold Stream.collectWithin at hrun
    simp only [bind_eq, ends_bind] at hrun
    obtain ⟨es₁, es₂, item, rfl, hnext, hrun⟩ := hrun
    have hhanded := next_tracks hids h hc hnext fun x hx => hserved x (List.mem_append_left _ hx)
    cases hhanded with
    | last hnone =>
      obtain ⟨-, rfl⟩ := hrun
      exact ⟨hnone.symm, rfl⟩
    | @piece n r' c' _ hpos hleft hlimit htracks hmoved hreadable =>
      simp only [done_bind, ends_bind] at hrun
      obtain ⟨es₃, es₄, ⟨more, error⟩, rfl, hmore, hdone⟩ := hrun
      obtain ⟨-, rfl⟩ := hdone
      obtain ⟨hflatten, herror⟩ := ih htracks hreadable (by omega) hmore fun x hx =>
        hserved x (List.mem_append_right _ (List.mem_append_left _ hx))
      refine ⟨?_, herror⟩
      rw [List.flatten_cons, hflatten, hmoved, ← List.drop_drop]
      exact (upTo_eq_append hlimit _).symm

/-- **The pieces of a stream are what was left**, up to its limit, and it does not fail. -/
theorem Stream.collect_tracks (hids : ids.length = (pieces content).length)
    {answer : List Bytes × Option StorageError} (h : r.Tracks content token ids c)
    (hc : Cursor.Readable content c)
    (hrun : ((r.stream limit).collect fun _ => .done ()).Ends es answer)
    (hserved : ∀ x ∈ es, x.Serves token ids (pieces content)) :
    answer.1.flatten = upTo limit (content.drop c.position) ∧ answer.2 = none := by
  refine collectWithin_tracks hids h hc ?_ hrun hserved
  have hleft : r.remaining = content.length - c.position := by
    rw [remaining, h.size, h.position]
    omega
  show content.length - c.position < r.remaining + 1
  omega

end Reader
end ChunkVault
