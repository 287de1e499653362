/-
# ChunkVault.Proofs.Layout -- how content is cut into chunks

There is one way to cut content into chunks: every chunk but the last holds exactly `chunkSize` bytes, the
last holds at least one and at most that many, and no content has no chunks. `pieces` makes the cut,
`LaidOut` says of lengths that they are those of such a cut, and `pieces_flatten` says that it is the only
one: chunks that are laid out are the pieces of what they hold together.
-/
import ChunkVault.Record

namespace ChunkVault

theorem chunkSize_pos : 0 < chunkSize := by decide

/-- Content cut into chunks. -/
def pieces (content : Bytes) : List Bytes :=
  if content = [] then [] else content.take chunkSize :: pieces (content.drop chunkSize)
termination_by content.length
decreasing_by
  have := List.length_pos_iff.mpr ‹content ≠ []›
  have := chunkSize_pos
  simp only [List.length_drop]
  omega

/-- Lengths of chunks of which every one but the last is whole, and none is empty. -/
def LaidOut : List Nat → Prop
  | [] => True
  | [n] => 0 < n ∧ n ≤ chunkSize
  | n :: m :: rest => n = chunkSize ∧ LaidOut (m :: rest)

namespace LaidOut

theorem cons_whole {rest : List Nat} (h : LaidOut rest) : LaidOut (chunkSize :: rest) := by
  cases rest with
  | nil => exact ⟨chunkSize_pos, Nat.le_refl _⟩
  | cons m rest => exact ⟨rfl, h⟩

end LaidOut

/-! ## The pieces of content -/

@[simp] theorem pieces_nil : pieces [] = [] := by rw [pieces, if_pos rfl]

theorem pieces_of_ne_nil {content : Bytes} (h : content ≠ []) :
    pieces content = content.take chunkSize :: pieces (content.drop chunkSize) := by
  rw [pieces, if_neg h]

/-- A whole chunk in front of the rest is a piece of its own. -/
theorem pieces_append {whole : Bytes} (h : whole.length = chunkSize) (rest : Bytes) :
    pieces (whole ++ rest) = whole :: pieces rest := by
  have hne : whole ++ rest ≠ [] := by
    intro he
    rw [List.append_eq_nil_iff.mp he |>.1] at h
    exact absurd h.symm (Nat.ne_of_gt chunkSize_pos)
  rw [pieces_of_ne_nil hne, List.take_left' h, List.drop_left' h]

/-- Content that fits into one chunk is its only piece. -/
theorem pieces_of_le {content : Bytes} (h₀ : content ≠ []) (h : content.length ≤ chunkSize) :
    pieces content = [content] := by
  rw [pieces_of_ne_nil h₀, List.take_of_length_le h, List.drop_of_length_le h, pieces_nil]

/-- Nothing is lost or moved by the cut. -/
theorem flatten_pieces (content : Bytes) : (pieces content).flatten = content := by
  fun_induction pieces content with
  | case1 => rfl
  | case2 content h ih => rw [List.flatten_cons, ih, List.take_append_drop]

theorem laidOut_pieces (content : Bytes) : LaidOut ((pieces content).map List.length) := by
  fun_induction pieces content with
  | case1 => exact trivial
  | case2 content h ih =>
    by_cases hle : content.length ≤ chunkSize
    · rw [List.drop_of_length_le hle, pieces_nil, List.take_of_length_le hle]
      exact ⟨List.length_pos_iff.mpr h, hle⟩
    · have hw : (content.take chunkSize).length = chunkSize :=
        List.length_take_of_le (Nat.le_of_not_le hle)
      rw [List.map_cons, hw]
      exact ih.cons_whole

/-- **The cut is the only one.** Chunks that are laid out are the pieces of the content that they hold. -/
theorem pieces_flatten {chunks : List Bytes} (h : LaidOut (chunks.map List.length)) :
    pieces chunks.flatten = chunks := by
  -- along the chunks: one that others follow is whole, and the last one is a piece in any case
  induction chunks with
  | nil => exact pieces_nil
  | cons c rest ih =>
    cases rest with
    | nil =>
      have hb : 0 < c.length ∧ c.length ≤ chunkSize := h
      have hne : c ≠ [] := List.length_pos_iff.mp hb.1
      rw [List.flatten_singleton]
      exact pieces_of_le hne hb.2
    | cons d rest =>
      have hc : c.length = chunkSize := h.1
      rw [List.flatten_cons, pieces_append hc, ih h.2]

/-! ## Where a byte lies -/

/-- The `i`-th piece holds the bytes from `i` whole chunks on, as long as there are any. -/
theorem pieces_getElem? (content : Bytes) (i : Nat) :
    (pieces content)[i]? =
      if i * chunkSize < content.length then
        some ((content.drop (i * chunkSize)).take chunkSize)
      else none := by
  induction i generalizing content with
  | zero =>
    rw [Nat.zero_mul, List.drop_zero]
    by_cases h : content = []
    · subst h
      rw [pieces_nil, if_neg (by simp)]
      rfl
    · rw [pieces_of_ne_nil h, if_pos (List.length_pos_iff.mpr h)]
      rfl
  | succ i ih =>
    have hstep : (i + 1) * chunkSize = chunkSize + i * chunkSize := by rw [Nat.succ_mul, Nat.add_comm]
    by_cases h : content = []
    · subst h
      rw [pieces_nil, if_neg (by simp)]
      rfl
    · rw [pieces_of_ne_nil h, List.getElem?_cons_succ, ih, List.length_drop, List.drop_drop, hstep]
      by_cases hlt : i * chunkSize < content.length - chunkSize
      · rw [if_pos hlt, if_pos (by omega)]
      · rw [if_neg hlt, if_neg (by omega)]

/-- The number of chunks: the length of the content in chunks, rounded up. -/
theorem length_pieces (content : Bytes) :
    (pieces content).length = (content.length + (chunkSize - 1)) / chunkSize := by
  fun_induction pieces content with
  | case1 => rfl
  | case2 content h ih =>
    have hpos := List.length_pos_iff.mpr h
    rw [List.length_cons, ih, List.length_drop]
    simp only [chunkSize]
    omega

end ChunkVault
