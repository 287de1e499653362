/-
# ChunkVault.Proofs.Machine -- a reader that counts in machine words

A reader counts in numbers without bounds. A machine counts in words of 64 bits, signed ones for sizes and positions
and unsigned ones for limits and for the places of chunks and bytes. Here the operations on a reader are defined a
second time, with the arithmetic of a machine: a sum or a difference that leaves its word is a fault, and so is a
slice that leaves the bytes that it is taken of. A fault has no result (`none`).

The two come to the same (`history_computes`, `polls_computes`): nothing faults, on a file of any size, as long as it
has fewer than `maxChunks` chunks and none that is fetched is longer than `chunkSize`. A seek may put the position
anywhere. But a read moves it only within a chunk that the file has (`Bounded.position_add_le`), and the last chunk
that there can be ends before the signed words do. With one chunk more it does not (`faults_at_maxChunks`).
-/
import ChunkVault.Proofs.Polling
import ChunkVault.Text.Decimal

namespace ChunkVault

open Program

/-- The least number of a signed word of 64 bits. -/
def minPosition : Int := -9223372036854775808

/-- The 51st power of two: so many full chunks end just behind the greatest position. -/
def maxChunks : Nat := 2251799813685248

namespace Machine

/-! ## Words and slices -/

/-- The number is that of a signed word. -/
def Signed (n : Int) : Prop := minPosition ≤ n ∧ n ≤ maxPosition

instance (n : Int) : Decidable (Signed n) := inferInstanceAs (Decidable (_ ∧ _))

/-- The signed word of a number, if there is one. -/
def signed? (n : Int) : Option Int := if Signed n then some n else none

/-- The unsigned word of a number, if there is one. -/
def unsigned? (n : Int) : Option Nat := if 0 ≤ n ∧ n ≤ Text.maxWord64 then some n.toNat else none

/-- The end of a slice at the front of `length` bytes, if it lies within them. -/
def within? (n length : Nat) : Option Nat := if n ≤ length then some n else none

/-- A difference of signed words, cut off at the least and at the greatest of them. -/
def saturatingSub (a b : Int) : Int := max minPosition (min maxPosition (a - b))

/-- Numbers up to the greatest position fit both kinds of words. -/
theorem signed_natCast {n : Nat} (h : (n : Int) ≤ maxPosition) : Signed n :=
  ⟨Int.le_trans (by decide) (Int.natCast_nonneg n), h⟩

theorem le_maxWord64 {n : Nat} (h : (n : Int) ≤ maxPosition) : n ≤ Text.maxWord64 :=
  Int.ofNat_le.mp (Int.le_trans h (by decide))

theorem signed?_eq {n : Int} (h : Signed n) : signed? n = some n := if_pos h

theorem unsigned?_natCast {n : Nat} (h : n ≤ Text.maxWord64) : unsigned? n = some n :=
  if_pos ⟨Int.natCast_nonneg n, Int.ofNat_le.mpr h⟩

theorem within?_eq {n length : Nat} (h : n ≤ length) : within? n length = some n := if_pos h

/-! ## Operations that may fault -/

/-- A step of an operation that may fault. -/
def check {α : Type} (o : Option α) : OptionT Program α := OptionT.mk (done o)

end Machine

/-- An operation whose arguments are words of their types. -/
def ReaderOp.Fits : ReaderOp → Prop
  | .seek offset _ | .seekNumbered offset _ | .seekTo (.current offset) | .seekTo (.fromEnd offset) =>
    Machine.Signed offset
  | .seekTo (.start offset) => offset ≤ Text.maxWord64
  | .read _ | .readToEnd | .close => True

/-- An answer that a machine can hold: no chunk is longer than `chunkSize`, the size of a file is a signed word, and
it has fewer than `maxChunks` chunks. -/
def Exchange.Fits : Exchange → Prop
  | ⟨.race _ (.findChunk _), .finished (.ok (some chunk))⟩ => chunk.length ≤ chunkSize
  | ⟨.race _ (.findFile _), .finished (.ok (some file))⟩ =>
    Machine.Signed file.size ∧ file.chunkIds.length < maxChunks
  | _ => True

namespace Machine

/-- **The machine's operation `p` computes what `q` does**: whatever the two are answered that a machine can hold, `p`
does not fault and has the runs of `q`, and what they come to has the property `P`. -/
def Computes {α : Type} (p : OptionT Program α) (q : Program α) (P : α → Prop) : Prop :=
  ∀ es, (∀ x ∈ es, Exchange.Fits x) →
    (∀ result, (OptionT.run p).Ends es result ↔ ∃ a, result = some a ∧ q.Ends es a) ∧ ∀ a, q.Ends es a → P a

section Computes

variable {α β : Type} {P : α → Prop} {Q : β → Prop}

theorem Computes.done {a : α} (h : P a) : Computes (pure a) (.done a) P := by
  refine fun es _ => ⟨fun result => ⟨?_, ?_⟩, ?_⟩
  · rintro ⟨rfl, rfl⟩
    exact ⟨a, rfl, rfl, rfl⟩
  · rintro ⟨b, rfl, rfl, rfl⟩
    exact ⟨rfl, rfl⟩
  · rintro b ⟨-, rfl⟩
    exact h

theorem check_bind {o : Option α} {a : α} (h : o = some a) (f : α → OptionT Program β) : (check o >>= f) = f a := by
  subst h
  rfl

theorem Computes.check {o : Option α} {a : α} (ho : o = some a) (h : P a) : Computes (check o) (.done a) P := by
  subst ho
  exact .done h

/-- Operations that are computed one after the other. -/
theorem Computes.bind {p : OptionT Program α} {q : Program α} {f : α → OptionT Program β} {g : α → Program β}
    (h : Computes p q P) (hf : ∀ a, P a → Computes (f a) (g a) Q) : Computes (p >>= f) (q.bind g) Q := by
  intro es hes
  have hbind : OptionT.run (p >>= f) = (OptionT.run p).bind fun o =>
      match o with
      | some a => OptionT.run (f a)
      | none => Program.done none := by
    refine congrArg (OptionT.run p).bind (funext fun o => ?_)
    cases o <;> rfl
  refine ⟨fun result => ?_, fun b hrun => ?_⟩
  · rw [hbind, ends_bind]
    constructor
    · rintro ⟨es₁, es₂, o, rfl, hp, hrest⟩
      obtain ⟨hiff, hP⟩ := h es₁ fun x hx => hes x (List.mem_append_left _ hx)
      obtain ⟨a, rfl, hq⟩ := (hiff o).mp hp
      obtain ⟨b, rfl, hg⟩ := ((hf a (hP a hq) es₂ fun x hx => hes x (List.mem_append_right _ hx)).1 result).mp hrest
      exact ⟨b, rfl, ends_bind.mpr ⟨es₁, es₂, a, rfl, hq, hg⟩⟩
    · rintro ⟨b, rfl, hrun⟩
      obtain ⟨es₁, es₂, a, rfl, hq, hg⟩ := ends_bind.mp hrun
      obtain ⟨hiff, hP⟩ := h es₁ fun x hx => hes x (List.mem_append_left _ hx)
      have hrest := hf a (hP a hq) es₂ fun x hx => hes x (List.mem_append_right _ hx)
      exact ⟨es₁, es₂, some a, rfl, (hiff _).mpr ⟨a, rfl, hq⟩, (hrest.1 _).mpr ⟨b, rfl, hg⟩⟩
  · obtain ⟨es₁, es₂, a, rfl, hq, hg⟩ := ends_bind.mp hrun
    have hP := (h es₁ fun x hx => hes x (List.mem_append_left _ hx)).2 a hq
    exact (hf a hP es₂ fun x hx => hes x (List.mem_append_right _ hx)).2 b hg

/-- An operation without arithmetic of its own. -/
theorem Computes.lift {q : Program α} (h : ∀ es a, (∀ x ∈ es, Exchange.Fits x) → q.Ends es a → P a) :
    Computes (OptionT.lift q) q P := by
  have hends : ∀ es result, (OptionT.run (OptionT.lift q)).Ends es result ↔ ∃ a, result = some a ∧ q.Ends es a := by
    intro es result
    refine ends_bind.trans ⟨?_, ?_⟩
    · rintro ⟨es₁, _, a, rfl, hq, rfl, rfl⟩
      exact ⟨a, rfl, by rwa [List.append_nil]⟩
    · rintro ⟨a, rfl, hq⟩
      exact ⟨es, [], a, (List.append_nil es).symm, hq, rfl, rfl⟩
  exact fun es hes => ⟨hends es, fun a => h es a hes⟩

theorem Computes.mono {p : OptionT Program α} {q : Program α} {P' : α → Prop} (h : Computes p q P)
    (himp : ∀ a, P a → P' a) : Computes p q P' :=
  fun es hes => ⟨(h es hes).1, fun a hq => himp a ((h es hes).2 a hq)⟩

/-- What is known of every run of `q` is known of what is computed. -/
theorem Computes.and {p : OptionT Program α} {q : Program α} {P' : α → Prop} (h : Computes p q P)
    (h' : ∀ es a, q.Ends es a → P' a) : Computes p q fun a => P a ∧ P' a :=
  fun es hes => ⟨(h es hes).1, fun a hq => ⟨(h es hes).2 a hq, h' es a hq⟩⟩

end Computes

/-- A chunk that is fetched fits. -/
theorem fetch_computes (token : Token) (id : Uuid) :
    Computes (OptionT.lift (fetch token id)) (fetch token id) fun outcome =>
      ∀ chunk, outcome = .ok (some chunk) → chunk.length ≤ chunkSize := by
  refine .lift fun es outcome hes hrun chunk hchunk => ?_
  obtain ⟨race, rest, rfl, hrun⟩ := hrun
  have hfits := hes _ List.mem_cons_self
  cases race with
  | refused =>
    obtain ⟨-, rfl⟩ := hrun
    cases hchunk
  | abandoned =>
    obtain ⟨_, _, -, -, rfl⟩ := hrun
    cases hchunk
  | finished found =>
    obtain ⟨_, _, -, -, rfl⟩ := hrun
    obtain rfl := hchunk
    exact hfits

/-! ## The reader of a machine -/

/-- The place of the chunk that the position lies in, and how far into it that is. Division cuts off. -/
def place? (r : Reader) : Option (Nat × Nat) := do
  let index ← unsigned? (r.position.tdiv chunkSize)
  let offset ← unsigned? (r.position.tmod chunkSize)
  return (index, offset)

/-- `Reader.deliver`, with the place of the chunk. What it hands out is a slice of the chunk, copied to a slice of a
buffer of `room` bytes. -/
def deliver? (r : Reader) (index offset : Nat) (chunk : Bytes) (room : Nat) :
    Option (Except StorageError ReadOutcome × Reader) :=
  let available := if offset ≤ chunk.length then chunk.drop offset else []
  if available.isEmpty && room ≠ 0 then
    some (r.fail (.unknown "read chunk" [s!"chunk {index} shorter than file size implies"]))
  else do
    let copied ← within? (min room available.length) room
    let copied ← within? copied available.length
    let step ← signed? copied
    let position ← signed? (r.position + step)
    if r.size ≤ position then
      return (.ok ⟨available.take copied, true⟩, { r with position := position, state := .drained })
    else
      return (.ok ⟨available.take copied, false⟩, { r with position := position })

/-- `Reader.fetchAndDeliver`, with the place of the chunk. -/
def fetchAndDeliver (r : Reader) (index offset room : Nat) :
    OptionT Program (Except StorageError ReadOutcome × Reader) :=
  match r.chunkIds[index]? with
  | none =>
    let count := r.chunkIds.length
    return r.fail (.unknown "read chunk" [s!"chunk index {index} out of range ({count} chunks)"])
  | some id => do
    match ← OptionT.lift (fetch r.token id) with
    | .error e => return r.fail e
    | .ok none => return r.fail .notFound
    | .ok (some content) => check (deliver? { r with cached := some ⟨index, content⟩ } index offset content room)

/-- `Reader.read`. -/
def read (r : Reader) (room : Nat) : OptionT Program (Except StorageError ReadOutcome × Reader) :=
  match r.latched? with
  | some e => return (.error e, r)
  | none =>
    if r.size ≤ r.position then return (.error .endOfStream, { r with state := .drained })
    else if r.position < 0 then return (.error .invalidPosition, r)
    else do
      let (index, offset) ← check (place? r)
      match r.cachedAt? index with
      | some content => check (deliver? r index offset content room)
      | none => fetchAndDeliver r index offset room

/-- The position that a seek asks for. A sum that leaves its word is found out, and is no fault. -/
def target? (r : Reader) (offset : Int) : Whence → Option Int
  | .start => some offset
  | .current => signed? (r.position + offset)
  | .fromEnd => signed? (r.size + offset)

/-- `Reader.seek`. -/
def seek (r : Reader) (offset : Int) (whence : Whence) : Except StorageError Int × Reader :=
  match r.seekLatched? with
  | some e => (.error e, r)
  | none =>
    match target? r offset whence with
    | none => (.error .invalidPosition, r)
    | some target =>
      if 0 ≤ target then (.ok target, { r with position := target, state := .ready })
      else (.error .invalidPosition, r)

/-- `Reader.seekNumbered`. -/
def seekNumbered (r : Reader) (offset : Int) (whence : Int) : Except StorageError Int × Reader :=
  match Whence.ofNumber whence with
  | .error e => (.error e, r)
  | .ok origin => seek r offset origin

/-- `Reader.seekTo`. -/
def seekTo (r : Reader) : SeekTarget → Except StorageError Int × Reader
  | .start offset =>
    match signed? offset with
    | none => (.error .invalidPosition, r)
    | some offset => seek r offset .start
  | .current offset => seek r offset .current
  | .fromEnd offset => seek r offset .fromEnd

/-- `Reader.drainWithin`, with a buffer of `chunkSize` bytes. -/
def drainWithin : (reads : Nat) → Reader → OptionT Program (Except StorageError Bytes × Reader)
  | 0, r => return (.ok [], r)
  | reads + 1, r => do
    match ← read r chunkSize with
    | (.ok outcome, r) =>
      let _ ← check (within? outcome.content.length chunkSize)
      if outcome.endOfStream then return (.ok outcome.content, r)
      else
        let (rest, r) ← drainWithin reads r
        return (rest.map (outcome.content ++ ·), r)
    | (.error .endOfStream, r) => return (.ok [], r)
    | (.error e, r) => return (.error e, r)

/-- `Reader.readToEnd`. Room is made for all that remains, which has to be the length of something. -/
def readToEnd (r : Reader) : OptionT Program (Except StorageError Bytes × Reader) := do
  let remaining := (saturatingSub r.size r.position).toNat
  let _ ← check (within? remaining maxPosition.toNat)
  drainWithin (remaining + 1) r

/-- `Reader.operate`. -/
def operate (r : Reader) : ReaderOp → OptionT Program (ReaderReply × Reader)
  | .read room => do
    let (result, r) ← read r room
    return (.read result, r)
  | .seek offset whence =>
    let (result, r) := seek r offset whence
    return (.seek result, r)
  | .seekNumbered offset whence =>
    let (result, r) := seekNumbered r offset whence
    return (.seek result, r)
  | .seekTo target =>
    let (result, r) := seekTo r target
    return (.seek result, r)
  | .readToEnd => do
    let (result, r) ← readToEnd r
    return (.content result, r)
  | .close =>
    let (result, r) := r.close
    return (.close result, r)

/-- `Reader.history`. -/
def history : List ReaderOp → Reader → OptionT Program (List ReaderReply × Reader)
  | [], r => return ([], r)
  | op :: ops, r => do
    let (reply, r) ← operate r op
    let (replies, r) ← history ops r
    return (reply :: replies, r)

/-- What a piece leaves of a limit. -/
def left? (limit : Option Nat) (copied : Nat) : Option (Option Nat) :=
  match limit with
  | none => some none
  | some n => (unsigned? (n - copied)).map some

/-- `Stream.next`. -/
def next (s : Reader.Stream) : OptionT Program Reader.Item :=
  if s.limit = some 0 then return .last
  else do
    match ← read s.reader s.room with
    | (.ok outcome, r) =>
      if outcome.content.isEmpty then return .last
      else
        let left ← check (left? s.limit outcome.content.length)
        return .piece outcome.content ⟨r, left⟩
    | (.error .endOfStream, _) => return .last
    | (.error e, _) => return .broken e

/-- `Stream.poll`. -/
def poll : Option Reader.Stream → OptionT Program (Option (Except StorageError Bytes) × Option Reader.Stream)
  | none => return (none, none)
  | some s => do
    match ← next s with
    | .last => return (none, none)
    | .broken e => return (some (.error e), none)
    | .piece content rest => return (some (.ok content), some rest)

/-- `Stream.polls`. -/
def polls : (n : Nat) → Option Reader.Stream →
    OptionT Program (List (Option (Except StorageError Bytes)) × Option Reader.Stream)
  | 0, s => return ([], s)
  | n + 1, s => do
    let (answer, s) ← poll s
    let (answers, s) ← polls n s
    return (answer :: answers, s)

/-! ## The two readers -/

/-- A reader of which a machine can count everything: the size and the position are signed words, the position is not
negative, and the chunk at hand is one that the file has, and fits. -/
structure Bounded (r : Reader) : Prop where
  size : Signed r.size
  chunks : r.chunkIds.length < maxChunks
  nonneg : 0 ≤ r.position
  position : r.position ≤ maxPosition
  cached : ∀ c, r.cached = some c → c.index < r.chunkIds.length ∧ c.content.length ≤ chunkSize

variable {r : Reader} {index room : Nat} {chunk : Bytes}

theorem Bounded.new {size : Int} {ids : List Uuid} (hsize : Signed size) (hids : ids.length < maxChunks) (token : Token) :
    Bounded (.new token size ids) :=
  ⟨hsize, hids, Int.le_refl 0, (by decide : (0 : Int) ≤ maxPosition),
    fun c hc => absurd hc.symm (Option.some_ne_none c)⟩

namespace Bounded

/-- The position, by the chunk that it lies in. -/
theorem position_eq (h : Bounded r) : r.position = r.index * chunkSize + r.offset ∧ r.offset < chunkSize := by
  have hnonneg := h.nonneg
  have hsize : chunkSize = 4096 := rfl
  unfold Reader.index Reader.offset
  rw [hsize]
  omega

/-- **A read stays within the signed words**: it moves the position no further than to the end of its chunk. -/
theorem position_add_le (h : Bounded r) (hindex : r.index < r.chunkIds.length) {n : Nat}
    (hn : n ≤ chunkSize - r.offset) : r.position + n ≤ maxPosition := by
  obtain ⟨hposition, hoffset⟩ := h.position_eq
  have hchunks := h.chunks
  have hsize : chunkSize = 4096 := rfl
  have hmost : maxChunks = 2251799813685248 := rfl
  have hmax : maxPosition = 9223372036854775807 := rfl
  rw [hsize] at hposition
  omega

theorem place?_eq (h : Bounded r) : place? r = some (r.index, r.offset) := by
  have hdiv : r.position.tdiv chunkSize = r.index := by
    rw [Int.tdiv_eq_ediv_of_nonneg h.nonneg, Reader.index, Int.toNat_of_nonneg]
    exact Int.ediv_nonneg h.nonneg (Int.natCast_nonneg _)
  have hmod : r.position.tmod chunkSize = r.offset := by
    rw [Int.tmod_eq_emod_of_nonneg h.nonneg, Reader.offset, Int.toNat_of_nonneg]
    exact Int.emod_nonneg _ (by decide)
  obtain ⟨hposition, hoffset⟩ := h.position_eq
  have hle := h.position
  have hsize : chunkSize = 4096 := rfl
  rw [hsize] at hposition
  unfold place?
  rw [hdiv, hmod, unsigned?_natCast (le_maxWord64 (by omega)), unsigned?_natCast (le_maxWord64 (by omega))]
  rfl

theorem deliver?_eq (h : Bounded r) (hindex : r.index < r.chunkIds.length) (hchunk : chunk.length ≤ chunkSize)
    (room : Nat) : deliver? r r.index r.offset chunk room = some (r.deliver chunk room) := by
  have havailable : (if r.offset ≤ chunk.length then chunk.drop r.offset else []) = chunk.drop r.offset := by
    split
    · rfl
    · next hlt => exact (List.drop_eq_nil_of_le (Nat.le_of_not_le hlt)).symm
  unfold deliver? Reader.deliver
  simp only [havailable]
  split
  · rfl
  · have hle : min room (chunk.drop r.offset).length ≤ chunkSize - r.offset := by
      rw [List.length_drop]
      omega
    have hend := h.position_add_le hindex hle
    have hnonneg := h.nonneg
    have hmin : minPosition = -9223372036854775808 := rfl
    have hcopied : Signed (min room (chunk.drop r.offset).length : Nat) := signed_natCast (by omega)
    have hmoved : Signed (r.position + (min room (chunk.drop r.offset).length : Nat)) := ⟨by omega, hend⟩
    have htake := List.take_eq_take_min (l := chunk.drop r.offset) (i := room)
    simp only [within?_eq (Nat.min_le_left ..), within?_eq (Nat.min_le_right ..), signed?_eq hcopied, signed?_eq hmoved,
      Option.bind_eq_bind, Option.bind_some, List.length_take, ← htake]
    split <;> rfl

theorem withState (h : Bounded r) (state : ReaderState) : Bounded { r with state := state } :=
  ⟨h.size, h.chunks, h.nonneg, h.position, h.cached⟩

theorem moveTo (h : Bounded r) {position : Int} (hnonneg : 0 ≤ position) (hle : position ≤ maxPosition) :
    Bounded { r with position := position } :=
  ⟨h.size, h.chunks, hnonneg, hle, h.cached⟩

theorem deliver (h : Bounded r) (hindex : r.index < r.chunkIds.length) (hchunk : chunk.length ≤ chunkSize)
    (room : Nat) : Bounded (r.deliver chunk room).2 := by
  unfold Reader.deliver
  simp only
  split
  · exact h.withState _
  · have hle : ((chunk.drop r.offset).take room).length ≤ chunkSize - r.offset := by
      rw [List.length_take, List.length_drop]
      omega
    have hnonneg := h.nonneg
    have hforward : 0 ≤ r.position + ((chunk.drop r.offset).take room).length := by omega
    have hmoved := h.moveTo hforward (h.position_add_le hindex hle)
    split
    · exact hmoved.withState _
    · exact hmoved

theorem keep (h : Bounded r) (hindex : index < r.chunkIds.length) (hchunk : chunk.length ≤ chunkSize) :
    Bounded { r with cached := some ⟨index, chunk⟩ } := by
  refine ⟨h.size, h.chunks, h.nonneg, h.position, fun c hc => ?_⟩
  cases hc
  exact ⟨hindex, hchunk⟩

/-- The chunk at hand is one that the file has. -/
theorem cachedAt? (h : Bounded r) (hat : r.cachedAt? index = some chunk) :
    index < r.chunkIds.length ∧ chunk.length ≤ chunkSize := by
  unfold Reader.cachedAt? at hat
  split at hat
  · next c hc =>
    split at hat
    · next hindex =>
      cases hat
      exact hindex ▸ h.cached c hc
    · cases hat
  · cases hat

end Bounded

/-- **A read** does not fault. -/
theorem read_computes (h : Bounded r) (room : Nat) : Computes (read r room) (r.read room) fun run => Bounded run.2 := by
  unfold read Reader.read
  cases r.latched? with
  | some e => exact .done h
  | none =>
    simp only
    split
    · exact .done (h.withState _)
    · split
      · exact .done h
      · rw [check_bind h.place?_eq]
        simp only
        cases hat : r.cachedAt? r.index with
        | some chunk =>
          obtain ⟨hindex, hchunk⟩ := h.cachedAt? hat
          exact .check (h.deliver?_eq hindex hchunk room) (h.deliver hindex hchunk room)
        | none =>
          unfold fetchAndDeliver Reader.fetchAndDeliver
          cases hid : r.chunkIds[r.index]? with
          | none => exact .done (h.withState _)
          | some id =>
            refine (fetch_computes r.token id).bind fun outcome houtcome => ?_
            cases outcome with
            | error e => exact .done (h.withState _)
            | ok found =>
              cases found with
              | none => exact .done (h.withState _)
              | some chunk =>
                obtain ⟨hindex, -⟩ := List.getElem?_eq_some_iff.mp hid
                have hchunk := houtcome chunk rfl
                have hkept := h.keep hindex hchunk
                exact .check (hkept.deliver?_eq hindex hchunk room) (hkept.deliver hindex hchunk room)

/-! ## Seeks -/

/-- The sum that a seek looks at is that of its origin and its offset, if it is a word. -/
theorem target?_eq {offset : Int} (hoffset : Signed offset) (whence : Whence) :
    target? r offset whence = signed? (r.origin whence + offset) := by
  cases whence with
  | start =>
    show some offset = signed? (0 + offset)
    rw [Int.zero_add, signed?_eq hoffset]
  | current => rfl
  | fromEnd => rfl

/-- **A seek** comes to what it comes to without bounds: a sum that is no word is no position either. -/
theorem seek_eq {offset : Int} (hoffset : Signed offset) (whence : Whence) :
    seek r offset whence = r.seek offset whence := by
  unfold seek Reader.seek
  cases r.seekLatched? with
  | some e => rfl
  | none =>
    simp only [target?_eq hoffset]
    by_cases hword : Signed (r.origin whence + offset)
    · simp only [signed?_eq hword, hword.2, and_true]
    · have hrefused : ¬(0 ≤ r.origin whence + offset ∧ r.origin whence + offset ≤ maxPosition) := by
        rintro ⟨hnonneg, hle⟩
        exact hword ⟨Int.le_trans (by decide) hnonneg, hle⟩
      rw [if_neg hrefused, signed?, if_neg hword]

theorem seekNumbered_eq {offset : Int} (hoffset : Signed offset) (whence : Int) :
    seekNumbered r offset whence = r.seekNumbered offset whence := by
  unfold seekNumbered Reader.seekNumbered
  cases Whence.ofNumber whence with
  | error e => rfl
  | ok origin => exact seek_eq hoffset origin

theorem seekTo_eq {target : SeekTarget} (htarget : (ReaderOp.seekTo target).Fits) : seekTo r target = r.seekTo target := by
  cases target with
  | start offset =>
    unfold seekTo Reader.seekTo Reader.seekUnsigned
    by_cases hle : (offset : Int) ≤ maxPosition
    · have hoffset : Signed offset := signed_natCast hle
      simp only [signed?_eq hoffset, if_pos hle, seek_eq hoffset]
    · have hoffset : ¬Signed offset := fun hword => hle hword.2
      simp only [signed?, if_neg hoffset, if_neg hle]
  | current offset => exact seek_eq htarget .current
  | fromEnd offset => exact seek_eq htarget .fromEnd

namespace Bounded

/-- Wherever a seek goes, the position is a signed word, and not negative. -/
theorem seek (h : Bounded r) (offset : Int) (whence : Whence) : Bounded (r.seek offset whence).2 := by
  unfold Reader.seek
  split
  · exact h
  · simp only
    split
    · next htarget => exact (h.moveTo htarget.1 htarget.2).withState _
    · exact h

theorem seekNumbered (h : Bounded r) (offset : Int) (whence : Int) : Bounded (r.seekNumbered offset whence).2 := by
  unfold Reader.seekNumbered
  split
  · exact h
  · exact h.seek offset _

theorem seekTo (h : Bounded r) (target : SeekTarget) : Bounded (r.seekTo target).2 := by
  cases target with
  | start offset =>
    show Bounded (r.seekUnsigned offset).2
    unfold Reader.seekUnsigned
    split
    · exact h.seek offset .start
    · exact h
  | current offset => exact h.seek offset .current
  | fromEnd offset => exact h.seek offset .fromEnd

theorem close (h : Bounded r) : Bounded r.close.2 := by
  unfold Reader.close
  split
  · exact h
  · exact ⟨h.size, h.chunks, h.nonneg, h.position, fun c hc => absurd hc.symm (Option.some_ne_none c)⟩

end Bounded

/-! ## Histories -/

/-- **A read** computes what it has to, and hands out no more than there is room for. -/
theorem read_within (h : Bounded r) (room : Nat) :
    Computes (read r room) (r.read room) fun run =>
      Bounded run.2 ∧ ∀ o, run.1 = .ok o → o.content.length ≤ room := by
  refine (read_computes h room).and fun es run hrun o ho => ?_
  obtain ⟨result, r'⟩ := run
  obtain rfl : result = .ok o := ho
  exact (Reader.read_ok hrun).within

theorem drainWithin_computes (reads : Nat) (h : Bounded r) :
    Computes (drainWithin reads r) (r.drainWithin reads) fun run => Bounded run.2 := by
  induction reads generalizing r with
  | zero => exact .done h
  | succ reads ih =>
    refine (read_within h chunkSize).bind fun run hread => ?_
    obtain ⟨result, r'⟩ := run
    obtain ⟨hbounded, hwithin⟩ := hread
    cases result with
    | error e => cases e <;> exact .done hbounded
    | ok o =>
      simp only
      rw [check_bind (within?_eq (hwithin o rfl))]
      split
      · exact .done hbounded
      · exact (ih hbounded).bind fun rest hrest => .done hrest

theorem readToEnd_computes (h : Bounded r) : Computes (readToEnd r) r.readToEnd fun run => Bounded run.2 := by
  -- what remains is not cut off, but for a size below the position by more than a word
  have hremaining : (saturatingSub r.size r.position).toNat = r.remaining := by
    have hsize := h.size
    have hnonneg := h.nonneg
    have hmin : minPosition = -9223372036854775808 := rfl
    unfold Signed at hsize
    unfold saturatingSub Reader.remaining
    omega
  have hcapacity : r.remaining ≤ maxPosition.toNat := by
    have hsize := h.size.2
    have hnonneg := h.nonneg
    unfold Reader.remaining
    omega
  unfold readToEnd
  simp only [hremaining]
  rw [check_bind (within?_eq hcapacity)]
  exact drainWithin_computes _ h

/-- **Every operation** does without a fault, and leaves a reader of which that can be said again. -/
theorem operate_computes (h : Bounded r) {op : ReaderOp} (hop : op.Fits) :
    Computes (operate r op) (r.operate op) fun run => Bounded run.2 := by
  cases op with
  | read room => exact (read_computes h room).bind fun _ hread => .done hread
  | seek offset whence =>
    simp only [operate, seek_eq hop]
    exact .done (h.seek offset whence)
  | seekNumbered offset whence =>
    simp only [operate, seekNumbered_eq hop]
    exact .done (h.seekNumbered offset whence)
  | seekTo target =>
    simp only [operate, seekTo_eq hop]
    exact .done (h.seekTo target)
  | readToEnd => exact (readToEnd_computes h).bind fun _ hread => .done hread
  | close => exact .done h.close

/-- **A whole history** does without a fault. -/
theorem history_computes (h : Bounded r) {ops : List ReaderOp} (hops : ∀ op ∈ ops, op.Fits) :
    Computes (history ops r) (Reader.history ops r) fun run => Bounded run.2 := by
  induction ops generalizing r with
  | nil => exact .done h
  | cons op ops ih =>
    obtain ⟨hop, hops⟩ := List.forall_mem_cons.mp hops
    exact (operate_computes h hop).bind fun _ hnext => (ih hnext hops).bind fun _ hlast => .done hlast

/-! ### Too many chunks -/

/-- A fault ends an operation. -/
theorem fault_bind {α β : Type} {p : OptionT Program α} {es : List Exchange} (h : (OptionT.run p).Ends es none)
    (f : α → OptionT Program β) : (OptionT.run (p >>= f)).Ends es none :=
  ends_bind.mpr ⟨es, [], none, (List.append_nil es).symm, h, rfl, rfl⟩

/-- The last two bytes of a full chunk, from the last position but one: the position leaves its word. -/
theorem deliver?_faults (hposition : r.position = maxPosition - 1) (hchunk : chunk.length = chunkSize)
    (index : Nat) : deliver? r index 4094 chunk 2 = none := by
  have hsize : chunkSize = 4096 := rfl
  have havailable : (if 4094 ≤ chunk.length then chunk.drop 4094 else []) = chunk.drop 4094 := if_pos (by omega)
  have hlength : (chunk.drop 4094).length = 2 := by
    rw [List.length_drop]
    omega
  have hsome : (chunk.drop 4094).isEmpty = false := by
    cases hdrop : chunk.drop 4094 with
    | nil =>
      rw [hdrop] at hlength
      cases hlength
    | cons b rest => rfl
  unfold deliver?
  simp only [havailable, hsome, hlength, hposition]
  rfl

/-- **The bound on the number of chunks is exact.** On a file of the greatest size with `maxChunks` chunks, a read of
two bytes at the last position but one faults, if the last chunk is full. -/
theorem faults_at_maxChunks (token : Token) {ids : List Uuid} (hids : ids.length = maxChunks)
    (hchunk : chunk.length = chunkSize) : ∃ es, (∀ x ∈ es, Exchange.Fits x) ∧
      (OptionT.run (history [.seek (maxPosition - 1) .start, .read 2] (.new token maxPosition ids))).Ends es none := by
  obtain ⟨id, hid⟩ : ∃ id, ids[2251799813685247]? = some id :=
    ⟨_, List.getElem?_eq_getElem (hids ▸ (by decide : 2251799813685247 < maxChunks))⟩
  let es : List Exchange :=
    [⟨.race token (.findChunk id), .finished (.ok (some chunk))⟩, ⟨.count .fetchChunk false, ()⟩]
  let r : Reader := { Reader.new token maxPosition ids with position := maxPosition - 1 }
  have hread : (OptionT.run (read r 2)).Ends es none := by
    have hfetch : read r 2 = fetchAndDeliver r 2251799813685247 4094 2 := rfl
    have hlast : r.chunkIds[2251799813685247]? = some id := hid
    rw [hfetch, fetchAndDeliver, hlast]
    refine ends_bind.mpr ⟨es, [], some (.ok (some chunk)), rfl, ?_, ?_⟩
    · exact ⟨_, _, rfl, _, _, rfl, rfl, rfl⟩
    · exact ⟨rfl, (deliver?_faults rfl hchunk _).symm⟩
  refine ⟨es, List.forall_mem_cons.mpr ⟨Nat.le_of_eq hchunk, List.forall_mem_singleton.mpr trivial⟩, ?_⟩
  -- the seek is done without a query, and the fault of the read ends what surrounds it
  exact fault_bind (fault_bind (fault_bind hread _) _) _

/-! ## Streams -/

/-- A stream of which a machine can count everything. -/
structure StreamBounded (s : Reader.Stream) : Prop where
  reader : Bounded s.reader
  limit : ∀ n, s.limit = some n → n ≤ Text.maxWord64

/-- What an item leaves, a machine can count. -/
def ItemBounded : Reader.Item → Prop
  | .piece _ rest => StreamBounded rest
  | .last | .broken _ => True

/-- **The limit covers the piece**: what is left of it is no less than nothing. -/
theorem left?_eq {s : Reader.Stream} (h : StreamBounded s) {copied : Nat} (hcopied : copied ≤ s.room) :
    left? s.limit copied = some (s.limit.map (· - copied)) := by
  cases hlimit : s.limit with
  | none => rfl
  | some n =>
    have hle : copied ≤ n := Nat.le_trans hcopied (by unfold Reader.Stream.room; rw [hlimit]; exact Nat.min_le_left ..)
    have hword : n - copied ≤ Text.maxWord64 := Nat.le_trans (Nat.sub_le ..) (h.limit n hlimit)
    show (unsigned? ((n : Int) - (copied : Int))).map some = some (some (n - copied))
    rw [← Int.ofNat_sub hle, unsigned?_natCast hword]
    rfl

theorem next_computes {s : Reader.Stream} (h : StreamBounded s) : Computes (next s) s.next ItemBounded := by
  unfold next Reader.Stream.next
  split
  · exact .done trivial
  · refine (read_within h.reader s.room).bind fun run hread => ?_
    obtain ⟨result, r'⟩ := run
    obtain ⟨hbounded, hwithin⟩ := hread
    cases result with
    | error e => cases e <;> exact .done trivial
    | ok o =>
      simp only
      split
      · exact .done trivial
      · rw [check_bind (left?_eq h (hwithin o rfl))]
        refine .done ⟨hbounded, fun n hn => ?_⟩
        obtain ⟨most, hmost, rfl⟩ := Option.map_eq_some_iff.mp hn
        exact Nat.le_trans (Nat.sub_le ..) (h.limit most hmost)

theorem poll_computes {s : Option Reader.Stream} (h : ∀ t, s = some t → StreamBounded t) :
    Computes (poll s) (Reader.Stream.poll s) fun run => ∀ t, run.2 = some t → StreamBounded t := by
  cases s with
  | none => exact .done h
  | some s =>
    refine (next_computes (h s rfl)).bind fun item hitem => ?_
    cases item with
    | last => exact .done fun t ht => absurd ht.symm (Option.some_ne_none t)
    | broken e => exact .done fun t ht => absurd ht.symm (Option.some_ne_none t)
    | piece content rest =>
      refine .done fun t ht => ?_
      obtain rfl := Option.some.inj ht
      exact hitem

/-- **A stream**, asked for its items one after another, does without a fault. -/
theorem polls_computes (n : Nat) {s : Option Reader.Stream} (h : ∀ t, s = some t → StreamBounded t) :
    Computes (polls n s) (Reader.Stream.polls n s) fun run => ∀ t, run.2 = some t → StreamBounded t := by
  induction n generalizing s with
  | zero => exact .done h
  | succ n ih => exact (poll_computes h).bind fun _ hnext => (ih hnext).bind fun _ hlast => .done hlast

end Machine
end ChunkVault
