/-
# ChunkVault.Proofs.Caching -- what a reader has at hand is not seen

A reader keeps the chunk that it fetched last. Beside it stands one that keeps nothing: every read of it that gets
as far as a chunk fetches that chunk again (`Reader.readAfresh`). Over a store whose answers do not change, whatever
they are, and with a token that does not fire, nobody can tell the two apart (`Reader.cache_transparent`).

What carries this is that the chunk at hand is what the store answers for the id at its place (`Reader.Coherent`).
Every operation keeps that, a failing fetch that leaves the chunk at hand where it is included (`operate_agrees`).
The layout of the file does not come into it: there may be ids too few or too many, the same one at several places,
and chunks that are missing, empty, too short or too long.
-/
import ChunkVault.Proofs.Latch
import ChunkVault.Proofs.Drain

namespace ChunkVault

open Program

/-! ## A store whose answers do not change -/

/-- What a store answers to the fetch of each chunk. -/
abbrev Shelf := Uuid → Except StorageError (Option Bytes)

/-- A fetch is answered with what stands in the shelf, and no token has fired before it or during it. -/
def Exchange.Steady (shelf : Shelf) : Exchange → Prop
  | ⟨.race _ (.findChunk id), race⟩ => race = .finished (shelf id)
  | _ => True

/-- What stands in the shelf for a query; the other answers are never asked for. -/
def Query.ofShelf (shelf : Shelf) : (q : Query) → q.Answer
  | .race _ (.findChunk id) => .finished (shelf id)
  | .race _ _ => .refused
  | .call _ => .error .cancelled
  | .fired _ => false
  | .wait _ | .fire _ | .count .. => ()

namespace Program

variable {α β : Type} {shelf : Shelf}

/-- What an operation ends with over a shelf. -/
def onShelf (shelf : Shelf) (p : Program α) : α := (p.run (fun q w => (q.ofShelf shelf, w)) ()).1

@[simp] theorem onShelf_bind (p : Program α) (f : α → Program β) :
    (p.bind f).onShelf shelf = (f (p.onShelf shelf)).onShelf shelf := by
  unfold onShelf
  rw [run_bind]

@[simp] theorem onShelf_fetch (token : Token) (id : Uuid) : (fetch token id).onShelf shelf = shelf id := rfl

/-- **Over a shelf there is one run** of an operation that does nothing but fetch chunks. -/
theorem onShelf_of_ends {p : Program α} (hp : p.Asks Query.Fetches) {es : List Exchange} {a : α} (h : p.Ends es a)
    (hes : ∀ x ∈ es, x.Steady shelf) : a = p.onShelf shelf := by
  induction p generalizing es with
  | done b => exact h.2
  | ask q resume ih =>
    obtain ⟨answer, rest, rfl, h⟩ := h
    have hanswer : answer = q.ofShelf shelf := by
      have hsteady := hes _ List.mem_cons_self
      have hfetch := hp.1
      match q, answer, hsteady, hfetch with
      | .race _ (.findChunk _), _, hsteady, _ => exact hsteady
      | .count .., _, _, _ => rfl
    rw [ih answer (hp.2 answer) h fun x hx => hes x (List.mem_cons_of_mem _ hx), hanswer]
    rfl

theorem exists_ends_onShelf {p : Program α} (hp : p.Asks Query.Fetches) (shelf : Shelf) :
    ∃ es, p.Ends es (p.onShelf shelf) ∧ ∀ x ∈ es, x.Steady shelf := by
  induction p with
  | done a => exact ⟨[], ⟨rfl, rfl⟩, nofun⟩
  | ask q resume ih =>
    obtain ⟨es, h, hes⟩ := ih (q.ofShelf shelf) (hp.2 _)
    refine ⟨⟨q, q.ofShelf shelf⟩ :: es, ⟨_, es, rfl, h⟩, fun x hx => ?_⟩
    rcases List.mem_cons.mp hx with rfl | hx
    · have hfetch := hp.1
      match q, hfetch with
      | .race _ (.findChunk _), _ => exact rfl
      | .count .., _ => exact trivial
    · exact hes x hx

end Program

namespace Reader

/-! ## A reader that keeps nothing -/

/-- The reader without what it has at hand. -/
def forget (r : Reader) : Reader := { r with cached := none }

/-- Reads with nothing at hand, so that the chunk is fetched, whether or not it was the last one. -/
def readAfresh (r : Reader) (room : Nat) : Program (Except StorageError ReadOutcome × Reader) := r.forget.read room

/-- Reads whole chunks until the end, at most `reads` times, each of them in this way. -/
def drainBy (read : Reader → Nat → Program (Except StorageError ReadOutcome × Reader)) :
    (reads : Nat) → Reader → Program (Except StorageError Bytes × Reader)
  | 0, r => return (.ok [], r)
  | reads + 1, r => do
    match ← read r chunkSize with
    | (.ok outcome, r) =>
      if outcome.endOfStream then return (.ok outcome.content, r)
      else
        let (rest, r) ← drainBy read reads r
        return (rest.map (outcome.content ++ ·), r)
    | (.error .endOfStream, r) => return (.ok [], r)
    | (.error e, r) => return (.error e, r)

/-- One operation on a reader, with its reads made in this way. -/
def operateBy (read : Reader → Nat → Program (Except StorageError ReadOutcome × Reader)) (r : Reader) :
    ReaderOp → Program (ReaderReply × Reader)
  | .read room => do
    let (result, r) ← read r room
    return (.read result, r)
  | .readToEnd => do
    let (result, r) ← drainBy read (r.remaining + 1) r
    return (.content result, r)
  | op => r.operate op

theorem drainBy_read (reads : Nat) (r : Reader) : drainBy Reader.read reads r = r.drainWithin reads := by
  induction reads generalizing r with
  | zero => rfl
  | succ reads ih =>
    unfold drainBy drainWithin
    refine congrArg (r.read chunkSize).bind (funext fun answer => ?_)
    obtain ⟨result, r⟩ := answer
    cases result with
    | ok o => simp only [ih]
    | error e => cases e <;> rfl

/-- The operations of a reader are those whose reads are its own. -/
theorem operateBy_read (r : Reader) (op : ReaderOp) : r.operateBy Reader.read op = r.operate op := by
  cases op with
  | readToEnd =>
    simp only [operateBy, drainBy_read]
    rfl
  | _ => rfl

/-- What is seen of an operation: what it answers, and where the reader stands after it. -/
structure Sight where
  reply : ReaderReply
  position : Int

/-- What is seen of operations that are made in this way, one after another. -/
def watch (operate : Reader → ReaderOp → Program (ReaderReply × Reader)) :
    List ReaderOp → Reader → Program (List Sight × Reader)
  | [], r => return ([], r)
  | op :: ops, r => do
    let (reply, r) ← operate r op
    let (sights, r') ← watch operate ops r
    return (⟨reply, r.position⟩ :: sights, r')

/-! ## The queries of a history -/

theorem drainBy_asks {read : Reader → Nat → Program (Except StorageError ReadOutcome × Reader)}
    (hread : ∀ r room, (read r room).Asks Query.Fetches) (reads : Nat) (r : Reader) :
    (drainBy read reads r).Asks Query.Fetches := by
  induction reads generalizing r with
  | zero => exact trivial
  | succ reads ih =>
    refine (hread r chunkSize).bind fun answer => ?_
    split
    · split
      · exact trivial
      · exact (ih _).bind fun _ => trivial
    · exact trivial
    · exact trivial

theorem operateBy_asks {read : Reader → Nat → Program (Except StorageError ReadOutcome × Reader)}
    (hread : ∀ r room, (read r room).Asks Query.Fetches) (r : Reader) (op : ReaderOp) :
    (r.operateBy read op).Asks Query.Fetches := by
  cases op with
  | read room => exact (hread r room).bind fun _ => trivial
  | readToEnd => exact (drainBy_asks hread _ r).bind fun _ => trivial
  | _ => exact trivial

theorem watch_asks {operate : Reader → ReaderOp → Program (ReaderReply × Reader)}
    (hoperate : ∀ r op, (operate r op).Asks Query.Fetches) (ops : List ReaderOp) (r : Reader) :
    (watch operate ops r).Asks Query.Fetches := by
  induction ops generalizing r with
  | nil => exact trivial
  | cons op ops ih => exact (hoperate r op).bind fun _ => (ih _).bind fun _ => trivial

/-! ## What is at hand -/

/-- The chunk at hand is what the store answers for the id at its place. -/
def Coherent (shelf : Shelf) (r : Reader) : Prop :=
  ∀ chunk, r.cached = some chunk → ∃ id, r.chunkIds[chunk.index]? = some id ∧ shelf id = .ok (some chunk.content)

/-- An answer with its reader as it is with nothing at hand: all of it that is seen. -/
def bare {α : Type} (x : α × Reader) : α × Reader := (x.1, x.2.forget)

/-- An answer looks like another one, whose reader has the right chunk at hand, or none. -/
structure Agrees {α : Type} (shelf : Shelf) (x y : α × Reader) : Prop where
  bare : bare x = bare y
  coherent : y.2.Coherent shelf

variable {shelf : Shelf} {r r' : Reader} {room : Nat}

/-- Delivering does not look at what is at hand. -/
theorem deliver_forget (r : Reader) (chunk : Bytes) (room : Nat) :
    r.forget.deliver chunk room = bare (r.deliver chunk room) := by
  unfold deliver
  simp only [show r.forget.offset = r.offset from rfl, show r.forget.size = r.size from rfl,
    show r.forget.position = r.position from rfl, show r.forget.index = r.index from rfl]
  split
  · rfl
  · split <;> rfl

theorem Coherent.of_moved (h : r.Coherent shelf) (hmoved : r.Moved r') : r'.Coherent shelf := by
  unfold Coherent
  rw [hmoved.cached, hmoved.chunkIds]
  exact h

theorem Coherent.deliver (h : r.Coherent shelf) (chunk : Bytes) (room : Nat) :
    (r.deliver chunk room).2.Coherent shelf :=
  h.of_moved (r.deliver_moved chunk room)

/-- What a fetch over the shelf brings is right to have at hand. -/
theorem Coherent.arrive (h : r.Coherent shelf) {id : Uuid} (hid : r.chunkIds[r.index]? = some id) (room : Nat) :
    (r.arrive room (shelf id)).2.Coherent shelf := by
  cases hshelf : shelf id with
  | error e => exact h
  | ok found =>
    cases found with
    | none => exact h
    | some chunk =>
      refine Coherent.deliver (fun chunk' hchunk => ?_) chunk room
      rw [← Option.some.inj hchunk]
      exact ⟨id, hid, hshelf⟩

/-- What a fetch brings does not depend on what was at hand before. -/
theorem arrive_forget (r : Reader) (room : Nat) (found : Except StorageError (Option Bytes)) :
    bare (r.forget.arrive room found) = bare (r.arrive room found) := by
  match found with
  | .error _ => rfl
  | .ok none => rfl
  | .ok (some chunk) =>
    have hleft := deliver_forget { r.forget with cached := some ⟨r.index, chunk⟩ } chunk room
    have hright := deliver_forget { r with cached := some ⟨r.index, chunk⟩ } chunk room
    exact hleft.symm.trans hright

/-- What a fetch of the chunk at hand brings is what is delivered from hand. -/
theorem arrive_found {chunk : Bytes} (room : Nat) :
    bare (r.forget.arrive room (.ok (some chunk))) = bare (r.deliver chunk room) := by
  have hleft := deliver_forget { r.forget with cached := some ⟨r.index, chunk⟩ } chunk room
  exact hleft.symm.trans (deliver_forget r chunk room)

/-- What a read without a chunk at hand comes to over the shelf. -/
theorem fetchAndDeliver_onShelf {id : Uuid} (hid : r.chunkIds[r.index]? = some id) (room : Nat) :
    (r.fetchAndDeliver room).onShelf shelf = r.arrive room (shelf id) := by
  unfold fetchAndDeliver
  rw [hid]
  simp only [bind_eq, onShelf_bind, onShelf_fetch]
  cases shelf id with
  | error e => rfl
  | ok found => cases found <;> rfl

theorem fetchAndDeliver_onShelf_of_none (hid : r.chunkIds[r.index]? = none) (room : Nat) :
    (r.fetchAndDeliver room).onShelf shelf = r.fail r.outOfRange := by
  unfold fetchAndDeliver
  rw [hid]
  rfl

/-- The chunk at hand is what a fetch would bring. -/
theorem Coherent.cachedAt? (h : r.Coherent shelf) {i : Nat} {chunk : Bytes} (hat : r.cachedAt? i = some chunk) :
    ∃ id, r.chunkIds[i]? = some id ∧ shelf id = .ok (some chunk) := by
  unfold Reader.cachedAt? at hat
  split at hat
  · next cached hcached =>
    split at hat
    · next hindex =>
      obtain ⟨id, hid, hshelf⟩ := h cached hcached
      obtain rfl := Option.some.inj hat
      exact ⟨id, hindex ▸ hid, hshelf⟩
    · cases hat
  · cases hat

/-- **A read that fetches its chunk again brings what the read with the chunk at hand brings.** -/
theorem read_agrees (h : r.Coherent shelf) (room : Nat) :
    Agrees shelf ((r.readAfresh room).onShelf shelf) ((r.read room).onShelf shelf) := by
  unfold readAfresh Reader.read
  simp only [show r.forget.latched? = r.latched? from rfl, show r.forget.size = r.size from rfl,
    show r.forget.position = r.position from rfl, show r.forget.index = r.index from rfl,
    show r.forget.cachedAt? r.index = none from rfl]
  split
  · exact ⟨rfl, h⟩
  · split
    · exact ⟨rfl, h⟩
    · split
      · exact ⟨rfl, h⟩
      · cases hat : r.cachedAt? r.index with
        | some chunk =>
          -- the chunk at hand is in the store, so that it is what is fetched
          obtain ⟨id, hid, hshelf⟩ := h.cachedAt? hat
          have hfetched : (r.forget.fetchAndDeliver room).onShelf shelf = r.forget.arrive room (.ok (some chunk)) :=
            hshelf ▸ fetchAndDeliver_onShelf (r := r.forget) hid room
          rw [hfetched]
          exact ⟨arrive_found room, h.deliver chunk room⟩
        | none =>
          cases hid : r.chunkIds[r.index]? with
          | some id =>
            have hfetched : (r.forget.fetchAndDeliver room).onShelf shelf = r.forget.arrive room (shelf id) :=
              fetchAndDeliver_onShelf (r := r.forget) hid room
            rw [hfetched, fetchAndDeliver_onShelf hid]
            exact ⟨arrive_forget r room (shelf id), h.arrive hid room⟩
          | none =>
            have hfailed : (r.forget.fetchAndDeliver room).onShelf shelf = r.forget.fail r.forget.outOfRange :=
              fetchAndDeliver_onShelf_of_none (r := r.forget) hid room
            rw [hfailed, fetchAndDeliver_onShelf_of_none hid]
            exact ⟨rfl, h⟩

/-! ## Operations and histories -/

theorem Agrees.answer {α : Type} {x y : α × Reader} (h : Agrees shelf x y) : x.1 = y.1 :=
  congrArg (fun z => z.1) h.bare

theorem Agrees.reader {α : Type} {x y : α × Reader} (h : Agrees shelf x y) : x.2.forget = y.2.forget :=
  congrArg (fun z => z.2) h.bare

/-- A read that fetches its chunk again does not look at what is at hand. -/
theorem readAfresh_congr (h : r.forget = r'.forget) (room : Nat) : r.readAfresh room = r'.readAfresh room := by
  rw [readAfresh, readAfresh, h]

theorem drainBy_agrees (h : r.Coherent shelf) (hr : r'.forget = r.forget) (reads : Nat) :
    Agrees shelf ((drainBy readAfresh reads r').onShelf shelf) ((drainBy Reader.read reads r).onShelf shelf) := by
  -- along the reads: both sides have the same answer to each, and go on from readers that look the same
  induction reads generalizing r r' with
  | zero => exact ⟨congrArg (Prod.mk _) hr, h⟩
  | succ reads ih =>
    unfold drainBy
    have hread := read_agrees h chunkSize
    rw [← readAfresh_congr hr] at hread
    simp only [bind_eq, onShelf_bind]
    generalize (r'.readAfresh chunkSize).onShelf shelf = x at hread
    generalize (r.read chunkSize).onShelf shelf = y at hread
    obtain ⟨result, r₁⟩ := x
    obtain ⟨result', r₂⟩ := y
    obtain rfl : result = result' := hread.answer
    have hreader : r₁.forget = r₂.forget := hread.reader
    cases result with
    | ok o =>
      simp only
      split
      · exact ⟨congrArg (Prod.mk _) hreader, hread.coherent⟩
      · have hrest := ih hread.coherent hreader
        simp only [onShelf_bind]
        exact ⟨congrArg (fun z => (z.1.map (o.content ++ ·), z.2)) hrest.bare, hrest.coherent⟩
    | error e => cases e <;> exact ⟨congrArg (Prod.mk _) hreader, hread.coherent⟩

theorem seek_forget (r : Reader) (offset : Int) (whence : Whence) :
    r.forget.seek offset whence = bare (r.seek offset whence) := by
  have horigin : r.forget.origin whence = r.origin whence := by cases whence <;> rfl
  unfold seek
  simp only [show r.forget.seekLatched? = r.seekLatched? from rfl, horigin]
  split
  · rfl
  · split <;> rfl

theorem seekNumbered_forget (r : Reader) (offset whence : Int) :
    r.forget.seekNumbered offset whence = bare (r.seekNumbered offset whence) := by
  unfold seekNumbered
  split
  · rfl
  · exact seek_forget r offset _

theorem seekTo_forget (r : Reader) (target : SeekTarget) : r.forget.seekTo target = bare (r.seekTo target) := by
  cases target with
  | start offset =>
    show r.forget.seekUnsigned offset = bare (r.seekUnsigned offset)
    unfold seekUnsigned
    split
    · exact seek_forget r offset .start
    · rfl
  | current offset => exact seek_forget r offset .current
  | fromEnd offset => exact seek_forget r offset .fromEnd

theorem Coherent.seek (h : r.Coherent shelf) (offset : Int) (whence : Whence) :
    (r.seek offset whence).2.Coherent shelf :=
  h.of_moved (r.seek_moved offset whence)

theorem Coherent.seekNumbered (h : r.Coherent shelf) (offset whence : Int) :
    (r.seekNumbered offset whence).2.Coherent shelf := by
  unfold Reader.seekNumbered
  split
  · exact h
  · exact h.seek offset _

theorem Coherent.seekTo (h : r.Coherent shelf) (target : SeekTarget) : (r.seekTo target).2.Coherent shelf := by
  cases target with
  | start offset =>
    show (r.seekUnsigned offset).2.Coherent shelf
    unfold seekUnsigned
    split
    · exact h.seek offset .start
    · exact h
  | current offset => exact h.seek offset .current
  | fromEnd offset => exact h.seek offset .fromEnd

/-- What does not look at what is at hand is the same for two readers that differ in nothing else. -/
theorem bare_congr {α : Type} (act : Reader → α × Reader) (hact : ∀ r, act r.forget = bare (act r))
    (hr : r'.forget = r.forget) : bare (act r') = bare (act r) := by
  rw [← hact, ← hact, hr]

/-- **One operation** with fresh reads and with the chunk at hand. -/
theorem operate_agrees (h : r.Coherent shelf) (hr : r'.forget = r.forget) (op : ReaderOp) :
    Agrees shelf ((r'.operateBy readAfresh op).onShelf shelf) ((r.operate op).onShelf shelf) := by
  rw [← operateBy_read]
  cases op with
  | read room =>
    have hread := read_agrees h room
    rw [← readAfresh_congr hr] at hread
    simp only [operateBy, bind_eq, onShelf_bind]
    exact ⟨congrArg (fun z => (ReaderReply.read z.1, z.2)) hread.bare, hread.coherent⟩
  | readToEnd =>
    have hdrain := drainBy_agrees h hr (r.remaining + 1)
    have hremaining : r'.remaining = r.remaining :=
      show r'.forget.remaining = r.forget.remaining from congrArg remaining hr
    simp only [operateBy, bind_eq, onShelf_bind, hremaining]
    exact ⟨congrArg (fun z => (ReaderReply.content z.1, z.2)) hdrain.bare, hdrain.coherent⟩
  | seek offset whence =>
    have hseek := bare_congr (fun r => r.seek offset whence) (fun r => seek_forget r offset whence) hr
    exact ⟨congrArg (fun z => (ReaderReply.seek z.1, z.2)) hseek, h.seek offset whence⟩
  | seekNumbered offset whence =>
    have hseek := bare_congr (fun r => r.seekNumbered offset whence) (fun r => seekNumbered_forget r offset whence) hr
    exact ⟨congrArg (fun z => (ReaderReply.seek z.1, z.2)) hseek, h.seekNumbered offset whence⟩
  | seekTo target =>
    have hseek := bare_congr (fun r => r.seekTo target) (fun r => seekTo_forget r target) hr
    exact ⟨congrArg (fun z => (ReaderReply.seek z.1, z.2)) hseek, h.seekTo target⟩
  | close =>
    have hforget : ∀ r : Reader, r.forget.close = bare r.close := by
      intro r
      unfold close
      simp only [show r.forget.closed = r.closed from rfl]
      split <;> rfl
    refine ⟨congrArg (fun z => (ReaderReply.close z.1, z.2)) (bare_congr close hforget hr), ?_⟩
    show r.close.2.Coherent shelf
    unfold close
    split
    · exact h
    · exact nofun

/-- **A history** with fresh reads and with the chunk at hand. -/
theorem watch_agrees (h : r.Coherent shelf) (hr : r'.forget = r.forget) (ops : List ReaderOp) :
    Agrees shelf ((watch (operateBy readAfresh) ops r').onShelf shelf)
      ((watch Reader.operate ops r).onShelf shelf) := by
  induction ops generalizing r r' with
  | nil => exact ⟨congrArg (Prod.mk _) hr, h⟩
  | cons op ops ih =>
    unfold watch
    have hop := operate_agrees h hr op
    simp only [bind_eq, onShelf_bind]
    generalize (r'.operateBy readAfresh op).onShelf shelf = x at hop
    generalize (r.operate op).onShelf shelf = y at hop
    obtain ⟨reply, r₁⟩ := x
    obtain ⟨reply', r₂⟩ := y
    obtain rfl : reply = reply' := hop.answer
    have hreader : r₁.forget = r₂.forget := hop.reader
    have hposition : r₁.position = r₂.position :=
      show r₁.forget.position = r₂.forget.position from congrArg Reader.position hreader
    have hrest := ih hop.coherent hreader
    refine ⟨?_, hrest.coherent⟩
    rw [hposition]
    exact congrArg (fun z => ((⟨reply, r₂.position⟩ :: z.1 : List Sight), z.2)) hrest.bare

/-- **What a reader has at hand is not seen.** Take any list of chunk ids and any size, and a store whose answers
to a fetch do not change, whatever they are; the token does not fire. Of any history of reads, seeks, closings and
drains the same is seen on the reader and on one that fetches its chunk again for every read: the answers, the
bytes among them, and the position after each operation. -/
theorem cache_transparent {token : Token} {size : Int} {ids : List Uuid} {shelf : Shelf} {ops : List ReaderOp}
    {es : List Exchange} {sights : List Sight} {r : Reader}
    (hrun : (watch Reader.operate ops (new token size ids)).Ends es (sights, r))
    (hes : ∀ x ∈ es, x.Steady shelf) :
    (∃ es' r', (watch (operateBy readAfresh) ops (new token size ids)).Ends es' (sights, r') ∧
      ∀ x ∈ es', x.Steady shelf) ∧
    ∀ es' sights' r', (watch (operateBy readAfresh) ops (new token size ids)).Ends es' (sights', r') →
      (∀ x ∈ es', x.Steady shelf) → sights' = sights ∧ r'.forget = r.forget := by
  have hasks : ∀ r op, (operateBy readAfresh r op).Asks Query.Fetches :=
    operateBy_asks fun r room => r.forget.read_asks room
  have hasks' : ∀ r op, (Reader.operate r op).Asks Query.Fetches := fun r op =>
    operateBy_read r op ▸ operateBy_asks Reader.read_asks r op
  have hnew : (new token size ids).Coherent shelf := nofun
  have hagrees := watch_agrees hnew rfl ops
  rw [← onShelf_of_ends (watch_asks hasks' ops _) hrun hes] at hagrees
  constructor
  · obtain ⟨es', hrun', hes'⟩ := exists_ends_onShelf (watch_asks hasks ops (new token size ids)) shelf
    have hanswer : _ = sights := hagrees.answer
    exact ⟨es', _, by rw [← hanswer]; exact hrun', hes'⟩
  · intro es' sights' r' hrun' hes'
    rw [← onShelf_of_ends (watch_asks hasks ops _) hrun' hes'] at hagrees
    exact ⟨hagrees.answer, hagrees.reader⟩

/-- Three bytes in one chunk: two of them are read, the position goes back by one, and the rest is drained. The
chunk is fetched once, and of the reader that fetches it for both reads the same is seen. -/
theorem cache_transparent_three_bytes :
    let shelf : Shelf := fun _ => .ok (some [97, 98, 99])
    let ops : List ReaderOp := [.read 2, .seek (-1) .current, .readToEnd, .close]
    let es : List Exchange := [⟨.race .own (.findChunk (.ofNat 7)), .finished (.ok (some [97, 98, 99]))⟩,
      ⟨.count .fetchChunk false, ()⟩]
    let sights : List Sight := [⟨.read (.ok ⟨[97, 98], false⟩), 2⟩, ⟨.seek (.ok 1), 1⟩,
      ⟨.content (.ok [98, 99]), 3⟩, ⟨.close (.ok ()), 3⟩]
    (∃ r, (watch Reader.operate ops (new .own 3 [.ofNat 7])).Ends es (sights, r)) ∧ (∀ x ∈ es, x.Steady shelf) ∧
      ∃ es' r', (watch (operateBy readAfresh) ops (new .own 3 [.ofNat 7])).Ends es' (sights, r') ∧
        ∀ x ∈ es', x.Steady shelf := by
  intro shelf ops es sights
  have hrun : ∃ r, (watch Reader.operate ops (new .own 3 [.ofNat 7])).Ends es (sights, r) :=
    ⟨_, _, _, rfl, _, _, rfl, rfl, rfl⟩
  have hes : ∀ x ∈ es, x.Steady shelf := by
    intro x hx
    rcases List.mem_cons.mp hx with rfl | hx
    · rfl
    · rw [List.mem_singleton.mp hx]
      exact trivial
  obtain ⟨r, hrun⟩ := hrun
  exact ⟨⟨r, hrun⟩, hes, (cache_transparent hrun hes).1⟩

end Reader
end ChunkVault
