/-
# ChunkVault.Proofs.Fetching -- which chunks a reader fetches, and when

A read fetches the chunk that its position lies in, unless that chunk was the last one to be fetched or the
position is not before the end; nothing else fetches. `Cursor.fetches` has this as a plan: for each operation of a
history, the places of the chunks that it fetches. A reader of content that is laid out keeps to the plan
(`session_fetches`), since the chunk that it has at hand is the last one that it fetched.

What a run of reads fetches is then a matter of the plan alone, and the lengths of the buffers do not come into it.
It is one range of places, from the first chunk that is not at hand on (`Cursor.fetches_reads`), and the range ends
with the content if the reads get that far (`Cursor.fetches_to_end`).
-/
import ChunkVault.Proofs.Progress
import ChunkVault.Proofs.Streaming

namespace ChunkVault

open Program

/-- The call fetches the chunk at this place of a file, and brings it. -/
def CallRecord.Brings (ids : List Uuid) (chunks : List Bytes) (i : Nat) (call : CallRecord) : Prop :=
  ∃ id chunk, ids[i]? = some id ∧ chunks[i]? = some chunk ∧ call = .ok (.findChunk id) (some chunk)

/-! ## The plan -/

namespace Cursor

/-- The place of the chunk that a read fetches, where `last` is that of the last one fetched. -/
def wants (content : Bytes) (c : Cursor) (last : Option Nat) : Option Nat :=
  if c.position < content.length ∧ last ≠ some (c.position / chunkSize) then some (c.position / chunkSize)
  else none

/-- The place of the chunk that an operation fetches; only reads fetch. -/
def demand (content : Bytes) (c : Cursor) (last : Option Nat) : CursorOp → Option Nat
  | .read _ => c.wants content last
  | .seek .. | .close => none

/-- The places of the chunks that operations fetch, for each operation. -/
def fetches (content : Bytes) : List CursorOp → Cursor → Option Nat → List (List Nat)
  | [], _, _ => []
  | op :: ops, c, last =>
    (c.demand content last op).toList ::
      fetches content ops (c.perform content op).2 ((c.demand content last op).or last)

/-- The place of the first chunk from the position on that is not the last one fetched. -/
def front (c : Cursor) (last : Option Nat) : Nat :=
  if last = some (c.position / chunkSize) then c.position / chunkSize + 1 else c.position / chunkSize

variable {content : Bytes} {c : Cursor} {last : Option Nat}

theorem wants_of_le (h : content.length ≤ c.position) : c.wants content last = none :=
  if_neg fun hwants => Nat.not_lt.mpr h hwants.1

/-- After a read before the end the chunk at its position is the last one fetched. -/
theorem wants_or (h : c.position < content.length) :
    (c.wants content last).or last = some (c.position / chunkSize) := by
  unfold wants
  by_cases hlast : last = some (c.position / chunkSize)
  · rw [if_neg fun hwants => hwants.2 hlast]
    exact hlast
  · rw [if_pos ⟨h, hlast⟩]
    rfl

/-- What a read before the end fetches, and the chunks behind that. -/
theorem wants_append (h : c.position < content.length) (n : Nat) :
    (c.wants content last).toList ++ List.range' (c.position / chunkSize + 1) n =
      List.range' (c.front last) (c.position / chunkSize + 1 + n - c.front last) := by
  unfold wants front
  by_cases hlast : last = some (c.position / chunkSize)
  · rw [if_neg fun hwants => hwants.2 hlast, if_pos hlast, Nat.add_sub_cancel_left]
    rfl
  · rw [if_pos ⟨h, hlast⟩, if_neg hlast, Nat.add_assoc, Nat.add_sub_cancel_left, Nat.add_comm 1 n, List.range'_succ]
    rfl

/-! ## What a run of reads fetches -/

namespace Readable

/-- A read before the end goes no further than the end and the end of its chunk. -/
theorem read_within (hc : Readable content c) (h : c.position < content.length) (room : Nat) :
    c.position ≤ (c.read content room).2.position ∧ (c.read content room).2.position ≤ content.length ∧
      (c.read content room).2.position ≤ (c.position / chunkSize + 1) * chunkSize := by
  rw [Cursor.read_of_lt (hc.undrained h) hc.closed h]
  have hleft := grant_le content c room
  have hchunk : c.grant content room ≤ chunkSize - c.position % chunkSize :=
    Nat.le_trans (Nat.min_le_right _ _) (Nat.min_le_left _ _)
  show c.position ≤ c.position + c.grant content room ∧ c.position + c.grant content room ≤ content.length ∧
    c.position + c.grant content room ≤ (c.position / chunkSize + 1) * chunkSize
  simp only [chunkSize] at hchunk ⊢
  omega

/-- What is fetched after a read before the end begins with the next chunk. -/
theorem front_read (hc : Readable content c) (h : c.position < content.length) (room : Nat) :
    (c.read content room).2.front (some (c.position / chunkSize)) = c.position / chunkSize + 1 := by
  obtain ⟨hle, -, hchunk⟩ := hc.read_within h room
  generalize (c.read content room).2 = c' at hle hchunk
  have hnext : c'.position / chunkSize = c.position / chunkSize ∨
      c'.position / chunkSize = c.position / chunkSize + 1 := by
    simp only [chunkSize] at hchunk ⊢
    omega
  unfold front
  rcases hnext with hsame | hnext
  · rw [hsame, if_pos rfl]
  · rw [hnext, if_neg fun heq => Nat.ne_of_lt (Nat.lt_succ_self _) (Option.some.inj heq)]

end Readable

theorem fetches_cons (buffer : Bytes) (buffers : List Bytes) :
    (c.fetches content ((buffer :: buffers).map .read) last).flatten =
      (c.wants content last).toList ++ ((c.read content buffer.length).2.fetches content (buffers.map .read)
        ((c.wants content last).or last)).flatten :=
  rfl

/-- **From the end on nothing is fetched.** -/
theorem fetches_of_le (hc : Readable content c) (h : content.length ≤ c.position) (buffers : List Bytes) :
    (c.fetches content (buffers.map .read) last).flatten = [] := by
  induction buffers generalizing c last with
  | nil => rfl
  | cons buffer buffers ih =>
    have hposition := (hc.read_of_le h buffer.length).2
    rw [fetches_cons, wants_of_le h]
    exact ih (hc.read buffer.length) (hposition ▸ h)

/-- **What a run of reads fetches is one range of places.** -/
theorem fetches_reads (hc : Readable content c) (buffers : List Bytes) :
    ∃ n, (c.fetches content (buffers.map .read) last).flatten = List.range' (c.front last) n := by
  -- along the reads: what is fetched after one of them begins where that read has left off
  induction buffers generalizing c last with
  | nil => exact ⟨0, rfl⟩
  | cons buffer buffers ih =>
    by_cases h : c.position < content.length
    · obtain ⟨n, hrest⟩ := @ih _ (some (c.position / chunkSize)) (hc.read buffer.length)
      rw [hc.front_read h buffer.length] at hrest
      refine ⟨c.position / chunkSize + 1 + n - c.front last, ?_⟩
      rw [fetches_cons, wants_or h, hrest]
      exact wants_append h n
    · exact ⟨0, fetches_of_le hc (Nat.not_lt.mp h) (buffer :: buffers)⟩

/-- **The range ends with the content** if the reads come to its end. -/
theorem fetches_to_end (hc : Readable content c) (h : c.position < content.length) {buffers : List Bytes}
    (hend : content.length ≤ (c.session content (buffers.map .read)).2.position) :
    (c.fetches content (buffers.map .read) last).flatten =
      List.range' (c.front last) ((content.length + (chunkSize - 1)) / chunkSize - c.front last) := by
  induction buffers generalizing c last with
  | nil => exact absurd h (Nat.not_lt.mpr hend)
  | cons buffer buffers ih =>
    obtain ⟨-, -, hchunk⟩ := hc.read_within h buffer.length
    have hcount : c.position / chunkSize + 1 ≤ (content.length + (chunkSize - 1)) / chunkSize := by
      simp only [chunkSize]
      omega
    have hrest : ((c.read content buffer.length).2.fetches content (buffers.map .read)
        (some (c.position / chunkSize))).flatten = List.range' (c.position / chunkSize + 1)
          ((content.length + (chunkSize - 1)) / chunkSize - (c.position / chunkSize + 1)) := by
      by_cases hlt : (c.read content buffer.length).2.position < content.length
      · rw [ih (hc.read buffer.length) hlt hend, hc.front_read h]
      · -- the read has come to the end, so that its chunk is the last one
        have hlast : (content.length + (chunkSize - 1)) / chunkSize - (c.position / chunkSize + 1) = 0 := by
          simp only [chunkSize] at hchunk ⊢
          omega
        rw [fetches_of_le (hc.read buffer.length) (Nat.not_lt.mp hlt), hlast]
        rfl
    rw [fetches_cons, wants_or h, hrest, wants_append h, Nat.add_sub_cancel' hcount]

end Cursor

/-! ## A reader keeps to the plan -/

namespace Reader

variable {content : Bytes} {token : Token} {ids : List Uuid} {r r' : Reader} {c : Cursor}
  {es : List Exchange} {room : Nat}

/-- The place of the chunk at hand. -/
def held (r : Reader) : Option Nat := r.cached.map CachedChunk.index

theorem cachedAt?_isSome {i : Nat} : (r.cachedAt? i).isSome = true ↔ r.held = some i := by
  unfold cachedAt? held
  cases r.cached with
  | none => exact ⟨nofun, nofun⟩
  | some chunk => by_cases h : chunk.index = i <;> simp [h]

theorem deliver_held (r : Reader) (chunk : Bytes) (room : Nat) : (r.deliver chunk room).2.held = r.held :=
  congrArg (Option.map CachedChunk.index) (r.deliver_moved chunk room).cached

/-- A reader gets as far as a chunk where its cursor is before the end. -/
theorem Tracks.reaches_iff (h : r.Tracks content token ids c) (hc : Cursor.Readable content c) :
    r.Reaches ↔ c.position < content.length := by
  constructor
  · intro hreach
    have hinside := hreach.inside
    rw [h.size, h.position] at hinside
    omega
  · intro hp
    refine ⟨?_, by rw [h.position]; omega, by rw [h.position, h.size]; omega⟩
    rw [h.latched?, hc.undrained hp, hc.closed]
    rfl

/-- **A read fetches what the plan has for it**, and has the last chunk that was fetched at hand. -/
theorem read_fetches (hids : ids.length = (pieces content).length) (h : r.Tracks content token ids c)
    (hc : Cursor.Readable content c) {result : Except StorageError ReadOutcome}
    (hrun : (r.read room).Ends es (result, r')) (hserved : ∀ x ∈ es, x.Serves token ids (pieces content)) :
    List.Forall₂ (CallRecord.Brings ids (pieces content)) (c.wants content r.held).toList (calls es) ∧
      r'.held = (c.wants content r.held).or r.held := by
  by_cases hp : c.position < content.length
  · have hrun := ((h.reaches_iff hc).mpr hp).readRun hrun
    rw [Cursor.wants_or hp, ← h.index]
    generalize hanswer : (result, r') = answer at hrun
    cases hrun with
    | @atHand chunk hat =>
      have hheld : r.held = some r.index := cachedAt?_isSome.mp (by rw [hat]; rfl)
      have hwants : c.wants content r.held = none := if_neg fun hwants => hwants.2 (h.index ▸ hheld)
      rw [hwants]
      refine ⟨.nil, ?_⟩
      rw [show r' = (r.deliver chunk room).2 from congrArg Prod.snd hanswer, deliver_held]
      exact hheld
    | outOfRange _ hid =>
      rw [h.chunkIds, h.index, List.getElem?_eq_none_iff, hids] at hid
      have hpiece := piece_at hp
      rw [List.getElem?_eq_none hid] at hpiece
      cases hpiece
    | @fetched id race rest hat hid hrest =>
      have hheld : r.held ≠ some r.index := fun hheld => by
        have hsome := cachedAt?_isSome.mpr hheld
        rw [hat] at hsome
        cases hsome
      have hwants : c.wants content r.held = some r.index := by
        rw [h.index] at hheld ⊢
        exact if_pos ⟨hp, hheld⟩
      -- the store has the chunk, and answers with it
      have hpiece := piece_at hp
      rw [← h.index] at hpiece
      rw [h.chunkIds] at hid
      obtain rfl := hserved _ List.mem_cons_self h.token _ _ hid hpiece
      rw [hwants, calls_cons, calls_of_counts hrest]
      refine ⟨.cons ⟨id, _, hid, hpiece, rfl⟩ .nil, ?_⟩
      obtain ⟨-, rfl⟩ := Prod.mk.inj hanswer
      exact deliver_held _ _ room
  · have hle := Nat.not_lt.mp hp
    obtain ⟨e, r₁, hback, hdone⟩ := read_unreached (fun hreach => hp ((h.reaches_iff hc).mp hreach)) room
    rw [hdone] at hrun
    obtain ⟨rfl, heq⟩ := hrun
    obtain ⟨rfl, rfl⟩ := Prod.mk.inj heq
    rw [Cursor.wants_of_le hle]
    refine ⟨.nil, ?_⟩
    cases hback <;> rfl

theorem seek_held (r : Reader) (offset : Int) (whence : Whence) : (r.seek offset whence).2.held = r.held :=
  congrArg (Option.map CachedChunk.index) (r.seek_moved offset whence).cached

/-- **One operation** fetches what the plan has for it. -/
theorem perform_fetches (hids : ids.length = (pieces content).length) (h : r.Tracks content token ids c)
    (hc : Cursor.Readable content c) {op : CursorOp} (hop : op ≠ .close) {reply : CursorReply}
    (hrun : (r.perform op).Ends es (reply, r')) (hserved : ∀ x ∈ es, x.Serves token ids (pieces content)) :
    List.Forall₂ (CallRecord.Brings ids (pieces content)) (c.demand content r.held op).toList (calls es) ∧
      r'.held = (c.demand content r.held op).or r.held := by
  cases op with
  | read buffer =>
    obtain ⟨result, hread, -⟩ := ends_perform_read.mp hrun
    exact read_fetches hids h hc hread hserved
  | seek offset whence =>
    obtain ⟨rfl, heq⟩ := hrun
    obtain ⟨-, rfl⟩ := Prod.mk.inj heq
    exact ⟨.nil, seek_held r offset whence⟩
  | close => exact absurd rfl hop

/-- **A history** of reads and seeks fetches what the plan has for it, operation by operation. -/
theorem session_fetches (hids : ids.length = (pieces content).length) {ops : List CursorOp}
    (hops : ∀ op ∈ ops, op ≠ .close) {replies : List CursorReply} (h : r.Tracks content token ids c)
    (hc : Cursor.Readable content c) (hrun : (r.session ops).Ends es (replies, r'))
    (hserved : ∀ x ∈ es, x.Serves token ids (pieces content)) :
    (∃ ess, es = ess.flatten ∧ List.Forall₂ (fun places es =>
      List.Forall₂ (CallRecord.Brings ids (pieces content)) places (calls es)) (c.fetches content ops r.held) ess) ∧
    r'.Tracks content token ids (c.session content ops).2 ∧ Cursor.Readable content (c.session content ops).2 ∧
      r'.held = (c.fetches content ops r.held).flatten.getLast?.or r.held := by
  -- along the history, with what the operations before have left at hand
  induction ops generalizing r c es replies with
  | nil =>
    obtain ⟨rfl, heq⟩ := hrun
    obtain ⟨-, rfl⟩ := Prod.mk.inj heq
    exact ⟨⟨[], rfl, .nil⟩, h, hc, rfl⟩
  | cons op ops ih =>
    obtain ⟨es₁, es₂, reply, r₁, rest, rfl, hone, hrest, rfl⟩ := ends_session_cons.mp hrun
    have hserved₁ : ∀ x ∈ es₁, x.Serves token ids (pieces content) := fun x hx =>
      hserved x (List.mem_append_left _ hx)
    have hop : op ≠ .close := hops op List.mem_cons_self
    obtain ⟨hfetched, hheld⟩ := perform_fetches hids h hc hop hone hserved₁
    obtain ⟨-, h₁⟩ := perform_tracks hids h hone hserved₁
    obtain ⟨⟨ess, rfl, hess⟩, h₂, hc₂, hheld₂⟩ := ih (fun op hmem => hops op (List.mem_cons_of_mem _ hmem)) h₁
      (hc.perform hop) hrest fun x hx => hserved x (List.mem_append_right _ hx)
    rw [hheld] at hess hheld₂
    refine ⟨⟨es₁ :: ess, List.flatten_cons.symm, .cons hfetched hess⟩, h₂, hc₂, ?_⟩
    rw [hheld₂, Cursor.fetches, List.flatten_cons, List.getLast?_append, Option.or_assoc]
    cases c.demand content r.held op <;> rfl

/-- What the operations of a history fetch, all together. -/
theorem brings_flatten {chunks : List Bytes} {plan : List (List Nat)} {ess : List (List Exchange)}
    (h : List.Forall₂ (fun places es => List.Forall₂ (CallRecord.Brings ids chunks) places (calls es)) plan ess) :
    List.Forall₂ (CallRecord.Brings ids chunks) plan.flatten (calls ess.flatten) := by
  induction h with
  | nil => exact .nil
  | @cons places es plan ess hone _ ih =>
    rw [List.flatten_cons, List.flatten_cons, calls_append]
    exact List.rel_append hone ih

/-! ## Drains -/

/-- One more read in front of a run of reads. -/
theorem session_read {buffer : Bytes} {buffers : List Bytes} {es₁ es₂ : List Exchange}
    {result : Except StorageError ReadOutcome} {r₁ : Reader} {replies : List CursorReply}
    (hread : (r.read buffer.length).Ends es₁ (result, r₁))
    (hrest : (r₁.session (buffers.map .read)).Ends es₂ (replies, r')) :
    ∃ replies, (r.session ((buffer :: buffers).map .read)).Ends (es₁ ++ es₂) (replies, r') := by
  have hone : (r.perform (.read buffer)).Ends es₁ (⟨.read result (copyInto buffer result), r₁.position⟩, r₁) :=
    ends_perform_read.mpr ⟨result, hread, rfl⟩
  exact ⟨_, ends_session_cons.mpr ⟨es₁, es₂, _, r₁, replies, rfl, hone, hrest, rfl⟩⟩

/-- **A drain is a run of reads** that comes to the end of the content. -/
theorem drainWithin_session (hids : ids.length = (pieces content).length) {most : Nat}
    {result : Except StorageError Bytes} (h : r.Tracks content token ids c) (hc : Cursor.Readable content c)
    (hmost : content.length - c.position < most) (hrun : (r.drainWithin most).Ends es (result, r'))
    (hserved : ∀ x ∈ es, x.Serves token ids (pieces content)) :
    ∃ (buffers : List Bytes) (replies : List CursorReply),
      (r.session (buffers.map .read)).Ends es (replies, r') ∧ (content.length : Int) ≤ r'.position := by
  -- along the reads, each of which leaves less of the content
  induction most generalizing r c es result with
  | zero => exact absurd hmost (Nat.not_lt_zero _)
  | succ most ih =>
    have hwhole : (List.replicate chunkSize 0 : Bytes).length = chunkSize := List.length_replicate
    have hlast : ∀ result, (r.read chunkSize).Ends es (result, r') → (content.length : Int) ≤ r'.position →
        ∃ (buffers : List Bytes) (replies : List CursorReply),
          (r.session (buffers.map .read)).Ends es (replies, r') ∧ (content.length : Int) ≤ r'.position := by
      intro result hread hend
      have hnone : (r'.session (([] : List Bytes).map .read)).Ends [] ([], r') := ⟨rfl, rfl⟩
      rw [← hwhole] at hread
      obtain ⟨replies, hsession⟩ := session_read hread hnone
      rw [List.append_nil] at hsession
      exact ⟨_, replies, hsession, hend⟩
    cases drainRun_of_ends hrun with
    | @last _ o _ hread hend =>
      rw [(read_ok hread).endOfStream, decide_eq_true_eq, h.size] at hend
      exact hlast _ hread hend
    | @failed _ e _ hread =>
      obtain ⟨herror, h₁⟩ := read_tracks hids h hread hserved
      by_cases hp : content.length ≤ c.position
      · refine hlast _ hread ?_
        rw [h₁.position, (hc.read_of_le hp chunkSize).2]
        exact Int.ofNat_le.mpr hp
      · have hlt := Nat.lt_of_not_le hp
        rw [Cursor.read_of_lt (hc.undrained hlt) hc.closed hlt] at herror
        cases herror
    | @more es₁ es₂ o r₁ _ rest hread hend hrest =>
      obtain ⟨-, h₁⟩ := read_tracks hids h hread fun x hx => hserved x (List.mem_append_left _ hx)
      have hadvances := read_ok hread
      have hpos := hadvances.progress chunkSize_pos
      have hmoved : content.length - (c.read content chunkSize).2.position < most := by
        have hinside := hadvances.inside
        have hposition := hadvances.position
        rw [h.position, h.size] at hinside
        rw [h₁.position, h.position] at hposition
        omega
      obtain ⟨buffers, replies, hsession, hposition⟩ := ih h₁ (hc.read chunkSize) hmoved hrest fun x hx =>
        hserved x (List.mem_append_right _ hx)
      rw [← hwhole] at hread
      obtain ⟨replies', hsession⟩ := session_read hread hsession
      exact ⟨_, replies', hsession, hposition⟩

/-! ## Economy -/

theorem Tracks.front (h : r.Tracks content token ids c) : c.front none = r.index := by
  rw [h.index]
  exact if_neg nofun

/-- A run of reads fetches one range of places, and nothing from the end on. -/
theorem reads_fetch (hids : ids.length = (pieces content).length) {buffers : List Bytes}
    {replies : List CursorReply} (h : r.Tracks content token ids c) (hc : Cursor.Readable content c)
    (hrun : (r.session (buffers.map .read)).Ends es (replies, r'))
    (hserved : ∀ x ∈ es, x.Serves token ids (pieces content)) :
    ∃ places, List.Forall₂ (CallRecord.Brings ids (pieces content)) places (calls es) ∧
      (∃ n, places = List.range' (c.front r.held) n) ∧ ((content.length : Int) ≤ r.position → places = []) ∧
      (r.position < content.length → (content.length : Int) ≤ r'.position →
        places = List.range' (c.front r.held) ((content.length + (chunkSize - 1)) / chunkSize - c.front r.held)) := by
  have hops : ∀ op ∈ buffers.map CursorOp.read, op ≠ .close := by
    intro op hop
    obtain ⟨buffer, -, rfl⟩ := List.mem_map.mp hop
    exact nofun
  obtain ⟨⟨ess, rfl, hess⟩, h', -, -⟩ := session_fetches hids hops h hc hrun hserved
  rw [h.position, h'.position]
  refine ⟨_, brings_flatten hess, Cursor.fetches_reads hc buffers, fun hle => ?_, fun hlt hend => ?_⟩
  · exact Cursor.fetches_of_le hc (Int.ofNat_le.mp hle) buffers
  · exact Cursor.fetches_to_end hc (Int.ofNat_lt.mp hlt) (Int.ofNat_le.mp hend)

/-- **A reader fetches no chunk that it need not.** Take a file whose chunks are laid out, a store that answers each
fetch with the chunk in question, and any history of reads and seeks on a new reader. Each of its reads fetches the
chunk that the position lies in if the position is before the end and that chunk is not the last one fetched, and
nothing otherwise; so does the next read. No seek fetches anything. During a run of reads, into buffers of whatever
lengths, the places of the fetched chunks go up, and from the end on nothing is fetched. Where nothing was fetched
before, a run of reads that comes to the end of the content fetches every chunk once from that of its first position
on, and so does a drain. -/
theorem fetch_economy {chunks : List Bytes} {before : List CursorOp} {replies : List CursorReply}
    (hlaid : LaidOut (chunks.map List.length)) (hids : ids.length = chunks.length)
    (hopen : ∀ op ∈ before, op ≠ .close)
    (hrun : ((new token chunks.flatten.length ids).session before).Ends es (replies, r))
    (hserved : ∀ x ∈ es, x.Serves token ids chunks) :
    (∃ ess, es = ess.flatten ∧ List.Forall₂ (fun places es =>
      List.Forall₂ (CallRecord.Brings ids chunks) places (calls es))
        (Cursor.start.fetches chunks.flatten before none) ess) ∧
    (∀ room es₁ result r₁, (r.read room).Ends es₁ (result, r₁) → (∀ x ∈ es₁, x.Serves token ids chunks) →
      List.Forall₂ (CallRecord.Brings ids chunks)
        (if r.position < chunks.flatten.length ∧
            (Cursor.start.fetches chunks.flatten before none).flatten.getLast? ≠ some r.index then [r.index] else [])
        (calls es₁)) ∧
    (∀ (buffers : List Bytes) es₁ replies₁ r₁, (r.session (buffers.map .read)).Ends es₁ (replies₁, r₁) →
      (∀ x ∈ es₁, x.Serves token ids chunks) →
      ∃ places, List.Forall₂ (CallRecord.Brings ids chunks) places (calls es₁) ∧ places.Pairwise (· < ·) ∧
        ((chunks.flatten.length : Int) ≤ r.position → places = []) ∧
        (calls es = [] → r.position < chunks.flatten.length → (chunks.flatten.length : Int) ≤ r₁.position →
          places = List.range' r.index ((chunks.flatten.length + (chunkSize - 1)) / chunkSize - r.index))) ∧
    ∀ es₁ result r₁, r.readToEnd.Ends es₁ (result, r₁) → (∀ x ∈ es₁, x.Serves token ids chunks) →
      calls es = [] → r.position < chunks.flatten.length →
      List.Forall₂ (CallRecord.Brings ids chunks)
        (List.range' r.index ((chunks.flatten.length + (chunkSize - 1)) / chunkSize - r.index)) (calls es₁) := by
  -- chunks that are laid out are the pieces of what they hold, which is what a reader tracks
  have hpieces := pieces_flatten hlaid
  generalize chunks.flatten = content at hpieces hrun ⊢
  subst hpieces
  have hstart : Cursor.Readable content .start := ⟨rfl, nofun⟩
  obtain ⟨⟨ess, rfl, hess⟩, h, hc, hheld⟩ :=
    session_fetches hids hopen (new_tracks content token ids) hstart hrun hserved
  have hheld : r.held = (Cursor.start.fetches content before none).flatten.getLast? := hheld.trans Option.or_none
  -- where nothing was fetched, nothing is at hand
  have hfresh : calls ess.flatten = [] → r.held = none := by
    intro hnone
    have hplan : (Cursor.start.fetches content before none).flatten = [] :=
      List.forall₂_nil_right_iff.mp (hnone ▸ brings_flatten hess)
    rw [hheld, hplan]
    rfl
  refine ⟨⟨ess, rfl, hess⟩, ?_, ?_, ?_⟩
  · intro room es₁ result r₁ hread hserved₁
    obtain ⟨hfetched, -⟩ := read_fetches hids h hc hread hserved₁
    rw [← hheld, h.index, h.position]
    unfold Cursor.wants at hfetched
    split at hfetched
    · next hwants => rwa [if_pos ⟨Int.ofNat_lt.mpr hwants.1, hwants.2⟩]
    · next hwants => rwa [if_neg fun hwants' => hwants ⟨Int.ofNat_lt.mp hwants'.1, hwants'.2⟩]
  · intro buffers es₁ replies₁ r₁ hreads hserved₁
    obtain ⟨places, hplaces, ⟨n, hrange⟩, hnone, hall⟩ := reads_fetch hids h hc hreads hserved₁
    refine ⟨places, hplaces, hrange ▸ List.pairwise_lt_range', hnone, fun hcalls hlt hend => ?_⟩
    rw [hall hlt hend, hfresh hcalls, h.front]
  · intro es₁ result r₁ hdrain hserved₁ hcalls hlt
    have hmost : content.length - (Cursor.start.session content before).2.position < r.remaining + 1 := by
      rw [remaining, h.size, h.position]
      omega
    obtain ⟨buffers, replies₁, hreads, hend⟩ := drainWithin_session hids h hc hmost hdrain hserved₁
    obtain ⟨places, hplaces, -, -, hall⟩ := reads_fetch hids h hc hreads hserved₁
    rwa [hall hlt hend, hfresh hcalls, h.front] at hplaces

/-- Three bytes in one chunk, from the second one on. One read of one byte fetches the chunk, the next one has the
last byte from hand, and the one after that finds the end; a drain fetches the chunk once too. -/
theorem fetch_economy_three_bytes :
    let r : Reader := { new .own 3 [.ofNat 7] with position := 1 }
    let es : List Exchange := [⟨.race .own (.findChunk (.ofNat 7)), .finished (.ok (some [97, 98, 99]))⟩,
      ⟨.count .fetchChunk false, ()⟩]
    ((new .own 3 [.ofNat 7]).session [.seek 1 .start]).Ends [] ([⟨.seek (.ok 1), 1⟩], r) ∧
      (∃ replies r₁, (r.session ([[0], [0, 0], [0]].map .read)).Ends es (replies, r₁) ∧ r₁.position = 3 ∧
        List.Forall₂ (CallRecord.Brings [.ofNat 7] [[97, 98, 99]]) [0] (calls es)) ∧
      ∃ r₁, r.readToEnd.Ends es (.ok [98, 99], r₁) ∧
        List.Forall₂ (CallRecord.Brings [.ofNat 7] [[97, 98, 99]]) (List.range' 0 1) (calls es) := by
  intro r es
  have hlaid : LaidOut (([[97, 98, 99]] : List Bytes).map List.length) := ⟨by decide, by decide⟩
  have hbefore : ((new .own 3 [.ofNat 7]).session [.seek 1 .start]).Ends [] ([⟨.seek (.ok 1), 1⟩], r) := ⟨rfl, rfl⟩
  have hreads : ∃ replies r₁, (({ new .own 3 [.ofNat 7] with position := 1 } : Reader).session
      ([[0], [0, 0], [0]].map .read)).Ends es (replies, r₁) ∧ r₁.position = 3 :=
    ⟨_, _, ⟨_, _, rfl, _, _, rfl, rfl, rfl⟩, rfl⟩
  have hdrain : ∃ r₁, r.readToEnd.Ends es (.ok [98, 99], r₁) := ⟨_, _, _, rfl, _, _, rfl, rfl, rfl⟩
  have hserved : ∀ x ∈ es, x.Serves .own [.ofNat 7] [[97, 98, 99]] := by
    intro x hx
    rcases List.mem_cons.mp hx with rfl | hx
    · intro _ i chunk _ hchunk
      cases i with
      | zero => rw [← Option.some.inj hchunk]
      | succ i => cases hchunk
    · rw [List.mem_singleton.mp hx]
      exact trivial
  obtain ⟨-, -, hruns, hdrains⟩ := @fetch_economy .own [.ofNat 7] r [] [[97, 98, 99]] [.seek 1 .start] _ hlaid rfl
    (List.forall_mem_singleton.mpr nofun) hbefore nofun
  obtain ⟨replies, r₁, hreads, hend⟩ := hreads
  obtain ⟨r₂, hdrain⟩ := hdrain
  obtain ⟨places, hplaces, -, -, hall⟩ := hruns [[0], [0, 0], [0]] es replies r₁ hreads hserved
  obtain rfl : places = [0] := hall rfl (by decide) (by rw [hend]; decide)
  exact ⟨hbefore, ⟨replies, r₁, hreads, hend, hplaces⟩, r₂, hdrain, hdrains es _ r₂ hdrain hserved rfl (by decide)⟩

end Reader
end ChunkVault
