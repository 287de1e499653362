/-
# ChunkVault.Proofs.Delivery -- what a source hands out, however it hands it out

Whatever the reads of a source look like, it delivers certain bytes and then ends, fails or stalls.
`delivered` and `ending` say which, without a word about chunks, pauses or the room in a buffer. The main
statement is `fills_results`: the fills that a writer takes from a source are the whole chunks of what is
delivered, one after another, and then one fill that is settled by the ending. So the schedule of a source
has no influence on what is written.
-/
import ChunkVault.Source
import ChunkVault.Proofs.Layout

namespace ChunkVault

/-- How a source comes to its end. -/
inductive SourceEnd where
  /-- A read hands out nothing. -/
  | ended
  | failed (error : IoError)
  /-- The source is never ready again. -/
  | stalled
deriving DecidableEq

namespace SourceEnd

/-- The result of a fill that meets the end of its source, with `got` in hand. -/
def result (got : Bytes) : SourceEnd → FillEnd
  | ended => .filled got
  | failed e => .failed e
  | stalled => .stalled

/-- The results of all fills of a source that delivers `content` and ends like this. -/
def fillResults (e : SourceEnd) (content : Bytes) : List FillEnd :=
  if chunkSize ≤ content.length then
    .filled (content.take chunkSize) :: e.fillResults (content.drop chunkSize)
  else [e.result content]
termination_by content.length
decreasing_by
  have := chunkSize_pos
  simp only [List.length_drop]
  omega

theorem fillResults_of_le (e : SourceEnd) {content : Bytes} (h : chunkSize ≤ content.length) :
    e.fillResults content =
      .filled (content.take chunkSize) :: e.fillResults (content.drop chunkSize) := by
  rw [fillResults, if_pos h]

theorem fillResults_of_lt (e : SourceEnd) {content : Bytes} (h : content.length < chunkSize) :
    e.fillResults content = [e.result content] := by
  rw [fillResults, if_neg (Nat.not_le_of_lt h)]

/-- A fill that is filled holds the next piece of what is delivered. Either it is whole, and the fills of
what comes after it follow, or the source has ended with it. -/
theorem fillResults_filled {e : SourceEnd} {content got : Bytes} {rest : List FillEnd}
    (h : .filled got :: rest = e.fillResults content) :
    got = content.take chunkSize ∧
      (chunkSize ≤ content.length ∧ rest = e.fillResults (content.drop chunkSize) ∨
        content.length < chunkSize ∧ e = .ended) := by
  by_cases hle : chunkSize ≤ content.length
  · rw [e.fillResults_of_le hle, List.cons.injEq, FillEnd.filled.injEq] at h
    exact ⟨h.1, .inl ⟨hle, h.2⟩⟩
  · have hlt := Nat.lt_of_not_le hle
    rw [e.fillResults_of_lt hlt, List.cons.injEq] at h
    cases e with
    | ended =>
      rw [result, FillEnd.filled.injEq] at h
      exact ⟨by rw [h.1, List.take_of_length_le (Nat.le_of_lt hlt)], .inr ⟨hlt, rfl⟩⟩
    | failed e => exact absurd h.1 nofun
    | stalled => exact absurd h.1 nofun

/-- A source that ends as it should has no other fills than those that are filled. -/
theorem filled_of_mem {content : Bytes} {x : FillEnd} (h : x ∈ ended.fillResults content) :
    ∃ got, x = .filled got := by
  fun_induction fillResults ended content with
  | case1 content hle ih =>
    rcases List.mem_cons.mp h with rfl | h
    · exact ⟨_, rfl⟩
    · exact ih h
  | case2 content hlt => exact ⟨content, List.mem_singleton.mp h⟩

/-- Only a source that stalls has a fill that does. -/
theorem eq_stalled_of_mem {e : SourceEnd} {content : Bytes} (h : .stalled ∈ e.fillResults content) :
    e = .stalled := by
  fun_induction fillResults e content with
  | case1 content hle ih =>
    rcases List.mem_cons.mp h with h | h
    · cases h
    · exact ih h
  | case2 content hlt =>
    cases e with
    | stalled => rfl
    | ended => cases List.mem_singleton.mp h
    | failed e => cases List.mem_singleton.mp h

/-- A fill that is not filled is the last one, and shows how the source ends. -/
theorem fillResults_not_filled {e : SourceEnd} {content : Bytes} {first : FillEnd}
    {rest : List FillEnd} (h : first :: rest = e.fillResults content)
    (hf : ∀ got, first ≠ .filled got) : rest = [] ∧ first = e.result content := by
  by_cases hle : chunkSize ≤ content.length
  · rw [fillResults_of_le _ hle, List.cons.injEq] at h
    exact absurd h.1 (hf _)
  · rw [fillResults_of_lt _ (Nat.lt_of_not_le hle), List.cons.injEq] at h
    exact ⟨h.2, h.1⟩

/-- It is the work of a source that fails or stalls. -/
theorem ne_ended_of_not_filled {e : SourceEnd} {content : Bytes} {first : FillEnd}
    {rest : List FillEnd} (h : first :: rest = e.fillResults content)
    (hf : ∀ got, first ≠ .filled got) : e ≠ .ended := by
  rintro rfl
  exact hf content (fillResults_not_filled h hf).2

end SourceEnd

namespace Source

/-- The bytes that a source hands out up to its end, and how it ends. A read that was only interrupted is
no end, and neither is a pause. -/
def delivery : Source → Bytes × SourceEnd
  | [] => ([], .ended)
  | event :: rest =>
    match event with
    | .bytes content => (content ++ (delivery rest).1, (delivery rest).2)
    | .fail e => if e.kind = .interrupted then delivery rest else ([], .failed e)
    | .cancel _ | .pause => delivery rest
    | .stall _ => ([], .stalled)
    | .nothing => ([], .ended)

/-- A read that was interrupted is passed over. -/
theorem delivery_interrupted {e : IoError} (h : e.kind = .interrupted) (rest : Source) :
    delivery (.fail e :: rest) = delivery rest := if_pos h

/-- A read that fails otherwise is the end. -/
theorem delivery_failed {e : IoError} (h : e.kind ≠ .interrupted) (rest : Source) :
    delivery (.fail e :: rest) = ([], .failed e) := if_neg h

/-- The bytes that a source hands out up to its end. -/
def delivered (source : Source) : Bytes := source.delivery.1

/-- How a source ends. -/
def ending (source : Source) : SourceEnd := source.delivery.2

@[simp] theorem delivered_nil : delivered [] = [] := rfl
@[simp] theorem ending_nil : ending [] = .ended := rfl

@[simp] theorem delivered_bytes (content : Bytes) (rest : Source) :
    delivered (.bytes content :: rest) = content ++ delivered rest := rfl

@[simp] theorem ending_bytes (content : Bytes) (rest : Source) :
    ending (.bytes content :: rest) = ending rest := rfl

end Source

/-! ## One fill -/

namespace Fill

open Source

/-- While the source has bytes for it, a fill is filled, and leaves the source with the bytes after it. -/
theorem take_of_le {room : Nat} {source : Source} (got : Bytes) (fires : List String)
    (pauses : List (List String)) (h : room ≤ source.delivered.length) :
    (take room got fires pauses source).1.result = .filled (got ++ source.delivered.take room) ∧
      (take room got fires pauses source).2.delivered = source.delivered.drop room ∧
      (take room got fires pauses source).2.ending = source.ending := by
  -- along the reads: only bytes use up room, and an end would leave too few of them
  fun_induction take room got fires pauses source with
  | case1 room got fires pauses => simp
  | case2 got fires pauses event rest => simp
  | case3 room got fires pauses rest hroom content hle ih =>
    -- the read fits, and the rest of the room is left for the reads after it
    rw [delivered_bytes, List.length_append] at h
    obtain ⟨h₁, h₂, h₃⟩ := ih (by omega)
    refine ⟨?_, ?_, h₃⟩
    · rw [h₁, delivered_bytes, List.take_append, List.take_of_length_le hle, List.append_assoc]
    · rw [h₂, delivered_bytes, List.drop_append, List.drop_of_length_le hle, List.nil_append]
  | case4 room got fires pauses rest hroom content hgt =>
    -- the read brings more than there is room for, and what is over goes back to the source
    have hle : room ≤ content.length := by omega
    refine ⟨?_, ?_, rfl⟩
    · rw [delivered_bytes, List.take_append_of_le_length hle]
    · rw [delivered_bytes, delivered_bytes, List.drop_append_of_le_length hle]
  | case5 room got fires pauses rest hroom e hint ih =>
    simp only [delivered, ending, delivery_interrupted hint] at h ⊢
    exact ih h
  | case6 room got fires pauses rest hroom e hint =>
    simp only [delivered, delivery_failed hint, List.length_nil, Nat.le_zero] at h
    exact absurd h hroom
  | case7 room got fires pauses rest hroom token ih => exact ih h
  | case8 room got fires pauses rest hroom token =>
    exact absurd (Nat.le_zero.mp h) hroom
  | case9 room got fires pauses rest hroom ih => exact ih h
  | case10 room got fires pauses rest hroom => exact absurd (Nat.le_zero.mp h) hroom

/-- A fill that the source has not enough bytes for is settled by how the source ends. -/
theorem take_of_lt {room : Nat} {source : Source} (got : Bytes) (fires : List String)
    (pauses : List (List String)) (h : source.delivered.length < room) :
    (take room got fires pauses source).1.result = source.ending.result (got ++ source.delivered) := by
  fun_induction take room got fires pauses source with
  | case1 room got fires pauses => simp [SourceEnd.result]
  | case2 got fires pauses event rest => exact absurd h (Nat.not_lt_zero _)
  | case3 room got fires pauses rest hroom content hle ih =>
    rw [delivered_bytes, List.length_append] at h
    rw [ih (by omega), delivered_bytes, List.append_assoc, ending_bytes]
  | case4 room got fires pauses rest hroom content hgt =>
    rw [delivered_bytes, List.length_append] at h
    omega
  | case5 room got fires pauses rest hroom e hint ih =>
    simp only [delivered, ending, delivery_interrupted hint] at h ⊢
    exact ih h
  | case6 room got fires pauses rest hroom e hint =>
    rw [ending, delivery_failed hint]
    rfl
  | case7 room got fires pauses rest hroom token ih => exact ih h
  | case8 room got fires pauses rest hroom token => rfl
  | case9 room got fires pauses rest hroom ih => exact ih h
  | case10 room got fires pauses rest hroom => simp [delivered, ending, delivery, SourceEnd.result]

end Fill

/-! ## All fills -/

namespace Source

theorem isWhole_of_result {fill : Fill} {content : Bytes} (h : fill.result = .filled content) :
    fill.isWhole = decide (content.length = chunkSize) := by
  rw [Fill.isWhole, h]

/-- A fill that meets the end of its source is no whole chunk. -/
theorem not_isWhole_of_result {fill : Fill} {content : Bytes} {e : SourceEnd}
    (h : fill.result = e.result content) (hlt : content.length < chunkSize) : fill.isWhole = false := by
  cases e with
  | ended => rw [isWhole_of_result h, decide_eq_false (Nat.ne_of_lt hlt)]
  | failed e => rw [Fill.isWhole, h]; rfl
  | stalled => rw [Fill.isWhole, h]; rfl

theorem fillsUpTo_results (bound : Nat) (source : Source)
    (h : source.delivered.length < bound * chunkSize) :
    (fillsUpTo bound source).map (·.result) = source.ending.fillResults source.delivered := by
  induction bound generalizing source with
  | zero => exact absurd h (by rw [Nat.zero_mul]; exact Nat.not_lt_zero _)
  | succ bound ih =>
    rw [fillsUpTo]
    by_cases hle : chunkSize ≤ source.delivered.length
    · obtain ⟨h₁, h₂, h₃⟩ := Fill.take_of_le [] [] [] hle
      rw [List.nil_append] at h₁
      have hw : (Fill.take chunkSize [] [] [] source).1.isWhole = true := by
        rw [isWhole_of_result h₁, decide_eq_true (List.length_take_of_le hle)]
      rw [SourceEnd.fillResults_of_le _ hle]
      simp only [hw, if_true, List.map_cons, h₁]
      rw [ih, h₂, h₃]
      -- what is left is shorter by one chunk, and so is the bound
      rw [h₂, List.length_drop]
      rw [Nat.succ_mul] at h
      omega
    · have hlt : source.delivered.length < chunkSize := Nat.lt_of_not_le hle
      have h₁ := Fill.take_of_lt [] [] [] hlt
      rw [List.nil_append] at h₁
      rw [SourceEnd.fillResults_of_lt _ hlt]
      simp only [not_isWhole_of_result h₁ hlt, Bool.false_eq_true, if_false, List.map_cons,
        List.map_nil, h₁]

/-- The bound counts all bytes of a source, those after its end too. -/
theorem add_delivered_le (source : Source) (n : Nat) :
    n + source.delivered.length ≤ source.foldl (fun n event => match event with
      | .bytes content => n + content.length
      | _ => n) n := by
  induction source generalizing n with
  | nil => exact Nat.le_refl n
  | cons event rest ih =>
    -- an end may come before further bytes, which are counted but not delivered
    have stop : n ≤ rest.foldl (fun n event => match event with
        | .bytes content => n + content.length
        | _ => n) n := Nat.le_trans (Nat.le_add_right n _) (ih n)
    cases event with
    | bytes content =>
      rw [delivered_bytes, List.length_append, ← Nat.add_assoc]
      exact ih (n + content.length)
    | fail e =>
      by_cases hint : e.kind = .interrupted
      · rw [delivered, delivery_interrupted hint]
        exact ih n
      · rw [delivered, delivery_failed hint]
        exact stop
    | cancel token => exact ih n
    | stall token => exact stop
    | pause => exact ih n
    | nothing => exact stop

theorem delivered_lt_fillBound (source : Source) : source.delivered.length < source.fillBound := by
  have h : 1 + source.delivered.length ≤ source.fillBound := source.add_delivered_le 1
  omega

/-- **The schedule of a source has no influence on its fills.** They are the whole chunks of what it
delivers, and then one fill that its ending settles. -/
theorem fills_results (source : Source) :
    source.fills.map (·.result) = source.ending.fillResults source.delivered := by
  refine fillsUpTo_results _ source (Nat.lt_of_lt_of_le source.delivered_lt_fillBound ?_)
  exact Nat.le_mul_of_pos_right _ chunkSize_pos

theorem ending_of_stalled {source : Source} {fill : Fill} (hmem : fill ∈ source.fills)
    (h : fill.result = .stalled) : source.ending = .stalled := by
  have hresult : FillEnd.stalled ∈ source.fills.map (·.result) := h ▸ List.mem_map_of_mem hmem
  rw [source.fills_results] at hresult
  exact SourceEnd.eq_stalled_of_mem hresult

end Source
end ChunkVault
