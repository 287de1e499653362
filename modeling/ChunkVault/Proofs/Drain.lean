/-
# ChunkVault.Proofs.Drain -- reading on until the end

A caller reads into one buffer after another, of whatever lengths, until a read reports the end.
`drain_tracks`: what it has then is the content from where it began, and what it has before is a front of
that. Every read into a buffer with room brings a byte at least, so the end is reached.
-/
import ChunkVault.Proofs.Cursor

namespace ChunkVault

open Program

namespace Reader

/-- Reads into buffers of these lengths, one after another, until the end is reported or there are no more
buffers. The answer is what was read, and whether the end was reported. -/
def drain : List Nat → Reader → Program (Except StorageError (Bytes × Bool) × Reader)
  | [], r => return (.ok ([], false), r)
  | room :: rooms, r => do
    match ← r.read room with
    | (.ok outcome, r) =>
      if outcome.endOfStream then return (.ok (outcome.content, true), r)
      else
        let (rest, r) ← drain rooms r
        return (rest.map fun got => (outcome.content ++ got.1, got.2), r)
    | (.error .endOfStream, r) => return (.ok ([], true), r)
    | (.error e, r) => return (.error e, r)

/-! ## The queries of a reader -/

end Reader

/-- Whether a query can come from a reader: a fetch, or the counting of one. -/
def Query.Fetches : Query → Prop
  | .race _ (.findChunk _) | .count .. => True
  | _ => False

namespace Reader

theorem fetch_asks (token : Token) (id : Uuid) : (fetch token id).Asks Query.Fetches := by
  refine ⟨trivial, fun race => ?_⟩
  cases race with
  | refused => exact trivial
  | abandoned => exact ⟨trivial, fun _ => trivial⟩
  | finished o => exact ⟨trivial, fun _ => trivial⟩

theorem read_asks (r : Reader) (room : Nat) : (r.read room).Asks Query.Fetches := by
  unfold Reader.read
  split
  · exact trivial
  · split
    · exact trivial
    · split
      · exact trivial
      · split
        · exact trivial
        · unfold fetchAndDeliver
          split
          · exact trivial
          · refine (fetch_asks _ _).bind fun o => ?_
            split <;> exact trivial

theorem drain_asks (rooms : List Nat) (r : Reader) : (r.drain rooms).Asks Query.Fetches := by
  induction rooms generalizing r with
  | nil => exact trivial
  | cons room rooms ih =>
    refine (r.read_asks room).bind fun answer => ?_
    split
    · split
      · exact trivial
      · exact (ih _).bind fun _ => trivial
    · exact trivial
    · exact trivial

/-! ## The bytes of a drain -/

variable {content : Bytes} {token : Token} {ids : List Uuid} {r : Reader} {c : Cursor}

/-- What a drain has brought, from a place in the content on: a front of what is there, and all of it if
the end was reported, which happens before the buffers outnumber the bytes. -/
structure Drained (content : Bytes) (rooms : List Nat) (got : Bytes × Bool) : Prop where
  front : got.1 <+: content
  whole : got.2 = true → got.1 = content
  ends : content.length < rooms.length → got.2 = true

/-- One more read in front. -/
theorem Drained.append {rooms : List Nat} {got : Bytes × Bool} (h : Drained content rooms got) (room : Nat)
    {piece : Bytes} (hpiece : 0 < piece.length) :
    Drained (piece ++ content) (room :: rooms) (piece ++ got.1, got.2) where
  front := (List.prefix_append_right_inj piece).mpr h.front
  whole hwhole := congrArg (piece ++ ·) (h.whole hwhole)
  ends hlen := by
    rw [List.length_append, List.length_cons] at hlen
    exact h.ends (by omega)

/-- **A drain brings the content from the position on.** -/
theorem drain_tracks (hids : ids.length = (pieces content).length) {rooms : List Nat}
    (hrooms : ∀ room ∈ rooms, 0 < room) {es : List Exchange}
    {result : Except StorageError (Bytes × Bool)} {r' : Reader} (h : r.Tracks content token ids c)
    (hd : c.drained = false) (hc : c.closed = false) (hrun : (r.drain rooms).Ends es (result, r'))
    (hserved : ∀ x ∈ es, x.Serves token ids (pieces content)) :
    ∃ got, result = .ok got ∧ Drained (content.drop c.position) rooms got := by
  -- along the buffers: each read moves the front of what is left, until nothing is
  induction rooms generalizing r c es result r' with
  | nil =>
    obtain ⟨-, heq⟩ := hrun
    obtain ⟨rfl, rfl⟩ := Prod.mk.inj heq
    exact ⟨_, rfl, List.nil_prefix, nofun, fun hlt => absurd hlt (Nat.not_lt_zero _)⟩
  | cons room rooms ih =>
    unfold drain at hrun
    simp only [bind_eq, ends_bind] at hrun
    obtain ⟨es₁, es₂, ⟨answer, r₁⟩, rfl, hread, hrun⟩ := hrun
    obtain ⟨rfl, h₁⟩ := read_tracks hids h hread fun x hx => hserved x (List.mem_append_left _ hx)
    by_cases hp : content.length ≤ c.position
    · -- nothing is left to read
      rw [Cursor.read_of_le hd hc hp] at hrun
      obtain ⟨-, heq⟩ := hrun
      obtain ⟨rfl, rfl⟩ := Prod.mk.inj heq
      refine ⟨_, rfl, List.nil_prefix, fun _ => ?_, fun _ => rfl⟩
      exact (List.drop_of_length_le hp).symm
    · have hlt := Nat.lt_of_not_le hp
      have hle := Cursor.grant_le content c room
      have hpos := Cursor.grant_pos (hrooms room List.mem_cons_self) hlt
      rw [Cursor.read_of_lt hd hc hlt] at hrun h₁
      generalize hn : c.grant content room = n at hrun h₁ hle hpos
      by_cases hend : c.position + n = content.length
      · -- the last bytes are read
        simp only [decide_eq_true hend, if_true] at hrun
        obtain ⟨-, heq⟩ := hrun
        obtain ⟨rfl, rfl⟩ := Prod.mk.inj heq
        have hall : (content.drop c.position).take n = content.drop c.position :=
          List.take_of_length_le (by rw [List.length_drop]; omega)
        exact ⟨_, rfl, List.take_prefix .., fun _ => hall, fun _ => rfl⟩
      · -- bytes are left, for the buffers that are
        simp only [decide_eq_false hend, Bool.false_eq_true, if_false, ends_bind] at hrun h₁
        obtain ⟨es₃, es₄, ⟨rest, r₂⟩, rfl, hrest, hdone⟩ := hrun
        have hserved₃ : ∀ x ∈ es₃, x.Serves token ids (pieces content) := fun x hx =>
          hserved x (List.mem_append_right _ (List.mem_append_left _ hx))
        obtain ⟨got, rfl, hgot⟩ := ih (fun room hmem => hrooms room (List.mem_cons_of_mem _ hmem)) h₁ rfl hc
          hrest hserved₃
        obtain ⟨-, heq⟩ := hdone
        obtain ⟨rfl, rfl⟩ := Prod.mk.inj heq
        have hjoin : (content.drop c.position).take n ++ content.drop (c.position + n) =
            content.drop c.position := by
          rw [← List.drop_drop, List.take_append_drop]
        have hpiece : 0 < ((content.drop c.position).take n).length := by
          rw [List.length_take, List.length_drop, Nat.min_eq_left hle]
          exact hpos
        have hrest : Drained (content.drop (c.position + n)) rooms got := hgot
        have hall := hrest.append room hpiece
        rw [hjoin] at hall
        exact ⟨_, rfl, hall⟩

end Reader
end ChunkVault
