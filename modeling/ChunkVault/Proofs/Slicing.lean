/-
# ChunkVault.Proofs.Slicing -- a stream hands out a slice, chunk by chunk

The stream of a reader that stands in some content is the slice from the position on, up to its limit. It comes
in as many pieces as there are chunks that the slice meets, each of which is what the slice and the chunk have in
common (`sliced`), so no piece reaches from one chunk into the next.

That is so while each fetch that brings a chunk brings the one in question. The first fetch that does not bring
one, whatever the reason, breaks the stream off after the pieces that came before, and it fails with the error of
that fetch, once (`stream_slices`). There is one exception. A stream ends when a read reports the end of the
content, and a fetch that fails with the end of the stream looks like that: the stream ends short of the slice,
and does not fail (`stream_cut_short`).
-/
import ChunkVault.Proofs.Polling

namespace ChunkVault

open Program

/-! ## Slices of content -/

/-- Where a slice ends that begins at `first` and has a limit. -/
def sliceEnd (content : Bytes) (first : Nat) (limit : Option Nat) : Nat :=
  match limit with
  | none => content.length
  | some most => min content.length (first + most)

/-- What the slice from `first` up to `stop` has in common with the `i`-th chunk. -/
def overlap (content : Bytes) (first stop i : Nat) : Bytes :=
  content.extract (max first (i * chunkSize)) (min stop ((i + 1) * chunkSize))

/-- The slice from `first` up to `stop`, in its chunks: what it has in common with each of those that it meets. -/
def sliced (content : Bytes) (first stop : Nat) : List Bytes :=
  ((List.range (pieces content).length).map (overlap content first stop)).filter (· ≠ [])

section Slices

variable {content : Bytes} {first stop i : Nat} {limit : Option Nat}

theorem sliceEnd_le (content : Bytes) (first : Nat) (limit : Option Nat) :
    sliceEnd content first limit ≤ content.length := by
  cases limit with
  | none => exact Nat.le_refl _
  | some most => exact Nat.min_le_left _ _

/-- What is handed out moves the front of a slice, and not its end. -/
theorem sliceEnd_add {n : Nat} (hn : ∀ most, limit = some most → n ≤ most) :
    sliceEnd content (first + n) (limit.map (· - n)) = sliceEnd content first limit := by
  cases limit with
  | none => rfl
  | some most =>
    have hle := hn most rfl
    show min content.length (first + n + (most - n)) = min content.length (first + most)
    omega

theorem lt_sliceEnd (hfirst : first < content.length) (hlimit : limit ≠ some 0) :
    first < sliceEnd content first limit := by
  cases limit with
  | none => exact hfirst
  | some most =>
    have hmost : most ≠ 0 := fun hzero => hlimit (congrArg some hzero)
    exact Nat.lt_min.mpr ⟨hfirst, Nat.lt_add_of_pos_right (Nat.pos_of_ne_zero hmost)⟩

theorem length_overlap (hstop : stop ≤ content.length) :
    (overlap content first stop i).length = min stop ((i + 1) * chunkSize) - max first (i * chunkSize) := by
  rw [overlap, List.extract_eq_take_drop, List.length_take, List.length_drop]
  omega

theorem overlap_eq_nil (h : min stop ((i + 1) * chunkSize) ≤ max first (i * chunkSize)) :
    overlap content first stop i = [] := by
  rw [overlap, List.extract_eq_take_drop, Nat.sub_eq_zero_of_le h, List.take_zero]

/-- A chunk that begins in the slice or behind it does not depend on where the slice begins. -/
theorem overlap_of_le (h : first ≤ i * chunkSize) :
    overlap content first stop i = content.extract (i * chunkSize) (min stop ((i + 1) * chunkSize)) := by
  rw [overlap, Nat.max_eq_right h]

/-- The chunks that end before the slice have nothing in common with it. -/
theorem overlaps_before {k : Nat} (h : k * chunkSize ≤ first) :
    ((List.range k).map (overlap content first stop)).filter (· ≠ []) = [] := by
  refine List.filter_eq_nil_iff.mpr fun piece hpiece => ?_
  obtain ⟨i, hi, rfl⟩ := List.mem_map.mp hpiece
  have hend : (i + 1) * chunkSize ≤ k * chunkSize := Nat.mul_le_mul_right _ (List.mem_range.mp hi)
  have hnil : overlap content first stop i = [] := overlap_eq_nil (by omega)
  simp [hnil]

theorem sliced_of_le (h : stop ≤ first) : sliced content first stop = [] := by
  refine List.filter_eq_nil_iff.mpr fun piece hpiece => ?_
  obtain ⟨i, -, rfl⟩ := List.mem_map.mp hpiece
  have hnil : overlap content first stop i = [] := overlap_eq_nil (by omega)
  simp [hnil]

/-- Where a slice begins before its end, its first piece reaches to the end of the chunk that it begins in, or of
the slice, and the other pieces are those of the slice from there on. -/
theorem sliced_of_lt (hlt : first < stop) (hstop : stop ≤ content.length) {next : Nat}
    (hnext : next = min stop ((first / chunkSize + 1) * chunkSize)) :
    sliced content first stop = content.extract first next :: sliced content next stop := by
  -- the chunk that the slice begins in, and the chunks behind it
  have hk : first / chunkSize < (pieces content).length :=
    (List.getElem?_eq_some_iff.mp (piece_at (Nat.lt_of_lt_of_le hlt hstop))).1
  obtain ⟨behind, hcount⟩ : ∃ behind, (pieces content).length = first / chunkSize + 1 + behind :=
    ⟨(pieces content).length - (first / chunkSize + 1), by omega⟩
  have hbegin : first / chunkSize * chunkSize ≤ first := Nat.div_mul_le_self _ _
  have hend : first < (first / chunkSize + 1) * chunkSize := by
    simp only [chunkSize]
    omega
  have hwithin : first < next ∧ next ≤ (first / chunkSize + 1) * chunkSize := by omega
  have hhere : overlap content first stop (first / chunkSize) = content.extract first next := by
    rw [overlap, Nat.max_eq_left hbegin, hnext]
  have hsome : content.extract first next ≠ [] := by
    refine List.length_pos_iff.mp ?_
    rw [← hhere, length_overlap hstop]
    omega
  have hgone : overlap content next stop (first / chunkSize) = [] := by
    refine overlap_eq_nil ?_
    rw [← hnext]
    exact Nat.le_max_left _ _
  have hbehind : overlap content first stop ∘ (first / chunkSize + 1 + ·) =
      overlap content next stop ∘ (first / chunkSize + 1 + ·) := by
    funext j
    have hle : (first / chunkSize + 1) * chunkSize ≤ (first / chunkSize + 1 + j) * chunkSize :=
      Nat.mul_le_mul_right _ (Nat.le_add_right _ j)
    have hfirst := Nat.le_trans (Nat.le_of_lt hend) hle
    have hfrom := Nat.le_trans hwithin.2 hle
    exact (overlap_of_le hfirst).trans (overlap_of_le hfrom).symm
  simp only [sliced, hcount, List.range_add (n := first / chunkSize + 1), List.range_succ, List.map_append,
    List.filter_append, overlaps_before hbegin, overlaps_before (Nat.le_trans hbegin (Nat.le_of_lt hwithin.1)),
    List.map_map, List.map_singleton, hhere, hgone, hbehind]
  simp [hsome]

/-- **A slice is what its pieces hold together.** -/
theorem flatten_sliced (hstop : stop ≤ content.length) :
    (sliced content first stop).flatten = content.extract first stop := by
  -- along the slice: each piece leaves less of it
  induction hleft : stop - first using Nat.strongRecOn generalizing first with
  | ind left ih =>
  by_cases hle : stop ≤ first
  · rw [sliced_of_le hle, List.extract_eq_take_drop, Nat.sub_eq_zero_of_le hle, List.take_zero]
    rfl
  have hlt := Nat.lt_of_not_le hle
  obtain ⟨n, hpos, hn⟩ : ∃ n, 0 < n ∧ first + n = min stop ((first / chunkSize + 1) * chunkSize) := by
    refine ⟨min stop ((first / chunkSize + 1) * chunkSize) - first, ?_⟩
    simp only [chunkSize]
    omega
  have hwithin : first + n ≤ stop := hn ▸ Nat.min_le_left _ _
  rw [sliced_of_lt hlt hstop hn, List.flatten_cons, ih (stop - (first + n)) (by omega) rfl]
  have hsum : stop - first = n + (stop - (first + n)) := by omega
  simp only [List.extract_eq_take_drop, Nat.add_sub_cancel_left]
  rw [hsum, List.take_add, List.drop_drop]

theorem mem_sliced (hstop : stop ≤ content.length) {piece : Bytes} (hpiece : piece ∈ sliced content first stop) :
    piece ≠ [] ∧ piece.length ≤ chunkSize := by
  obtain ⟨hmem, hsome⟩ := List.mem_filter.mp hpiece
  obtain ⟨i, -, rfl⟩ := List.mem_map.mp hmem
  refine ⟨of_decide_eq_true hsome, ?_⟩
  rw [length_overlap hstop]
  simp only [chunkSize]
  omega

/-- Where nothing is left up to a limit, the slice is empty. -/
theorem sliceEnd_le_of_upTo (h : Reader.upTo limit (content.drop first) = []) :
    sliceEnd content first limit ≤ first := by
  cases limit with
  | none => exact List.drop_eq_nil_iff.mp h
  | some most =>
    rcases List.take_eq_nil_iff.mp h with rfl | hnone
    · exact Nat.min_le_right _ _
    · exact Nat.le_trans (Nat.min_le_left _ _) (List.drop_eq_nil_iff.mp hnone)

end Slices

/-! ## Fetches -/

/-- A fetch that does not fail brings the chunk in question. -/
def Exchange.Honest (token : Token) (ids : List Uuid) (chunks : List Bytes) (x : Exchange) : Prop :=
  x.fetchError? = none → x.Serves token ids chunks

namespace Reader

variable {content : Bytes} {token : Token} {ids : List Uuid} {r r' : Reader} {c : Cursor} {limit : Option Nat}
  {es : List Exchange}

/-- A read fails with the error of its fetch. -/
theorem read_fetchError {room : Nat} {result : Except StorageError ReadOutcome}
    (hrun : (r.read room).Ends es (result, r')) {x : Exchange} (hx : x ∈ es) {e : StorageError}
    (he : x.fetchError? = some e) : r.Reaches ∧ result = .error e := by
  by_cases hreach : r.Reaches
  · refine ⟨hreach, ?_⟩
    have hrun := hreach.readRun hrun
    generalize hresult : (result, r') = answer at hrun
    cases hrun with
    | atHand _ => exact absurd hx List.not_mem_nil
    | outOfRange _ _ => exact absurd hx List.not_mem_nil
    | @fetched id race rest _ _ hcounts =>
      rcases List.mem_cons.mp hx with rfl | hx
      · replace he : fetchError? race.outcome = some e := he
        have harrive : (r.arrive room race.outcome).1 = .error e := by
          generalize race.outcome = outcome at he
          match outcome, he with
          | .error _, rfl => rfl
          | .ok none, rfl => rfl
        exact (congrArg Prod.fst hresult).trans harrive
      · obtain ⟨method, failed, rfl⟩ := hcounts x hx
        cases he
  · -- a read that does not get to its chunk fetches nothing
    obtain ⟨e', r₁, -, hdone⟩ := read_unreached hreach room
    rw [hdone] at hrun
    rw [hrun.1] at hx
    exact absurd hx List.not_mem_nil

namespace Stream

/-- What a stream has next when a fetch fails: the failure, unless that is the end of the stream. -/
theorem next_fetchError {item : Item} (hrun : (Stream.mk r limit).next.Ends es item) {x : Exchange} (hx : x ∈ es)
    {e : StorageError} (he : x.fetchError? = some e) :
    r.Reaches ∧ limit ≠ some 0 ∧ item = if e = .endOfStream then .last else .broken e := by
  cases nextRun_of_ends hrun with
  | spent _ => exact absurd hx List.not_mem_nil
  | piece _ hread => cases (read_fetchError hread hx he).2
  | failed hzero hread =>
    obtain ⟨hreach, herror⟩ := read_fetchError hread hx he
    obtain rfl := Except.error.inj herror
    exact ⟨hreach, hzero, rfl⟩

/-! ## The answers to the polls -/

/-- The answers to so many polls of something that has these items. -/
def answersOf (n : Nat) (items : List (Except StorageError Bytes)) : List (Option (Except StorageError Bytes)) :=
  (List.range n).map (items[·]?)

theorem answersOf_cons (n : Nat) (item : Except StorageError Bytes) (items : List (Except StorageError Bytes)) :
    answersOf (n + 1) (item :: items) = some item :: answersOf n items := by
  rw [answersOf, List.range_succ_eq_map, List.map_cons, List.map_map]
  rfl

theorem answersOf_nil (n : Nat) : answersOf n [] = List.replicate n none := by
  rw [answersOf, List.map_eq_replicate_iff.mpr fun _ _ => List.getElem?_nil, List.length_range]

/-- The items of a stream whose fetches go well until one fails: what came before, and the failure, unless that
is the end of the stream. -/
def cutShort (got : List Bytes) (e : StorageError) : List (Except StorageError Bytes) :=
  got.map .ok ++ if e = .endOfStream then [] else [.error e]

/-- The answers to so many polls of a stream that has these pieces: all of them, or those from before the first
fetch that fails. -/
structure Polled (n : Nat) (slices : List Bytes) (es : List Exchange)
    (answers : List (Option (Except StorageError Bytes))) : Prop where
  whole : (∀ x ∈ es, x.fetchError? = none) → answers = answersOf n (slices.map .ok)
  cut : ∀ x ∈ es, ∀ e, x.fetchError? = some e →
    ∃ got rest, slices = got ++ rest ∧ rest ≠ [] ∧ got.length < n ∧ answers = answersOf n (cutShort got e)

theorem Polled.cons {n : Nat} {slices : List Bytes} {es₁ es₂ : List Exchange}
    {answers : List (Option (Except StorageError Bytes))} (h : Polled n slices es₂ answers)
    (hes₁ : ∀ x ∈ es₁, x.fetchError? = none) (piece : Bytes) :
    Polled (n + 1) (piece :: slices) (es₁ ++ es₂) (some (.ok piece) :: answers) where
  whole hes := by
    rw [h.whole fun x hx => hes x (List.mem_append_right _ hx), List.map_cons, answersOf_cons]
  cut x hx e he := by
    rcases List.mem_append.mp hx with hx | hx
    · rw [hes₁ x hx] at he
      cases he
    · obtain ⟨got, rest, rfl, hrest, hlt, rfl⟩ := h.cut x hx e he
      refine ⟨piece :: got, rest, rfl, hrest, Nat.succ_lt_succ hlt, ?_⟩
      exact (answersOf_cons n (.ok piece) (cutShort got e)).symm

/-- A piece reaches to the end of the chunk that it begins in, or of the slice. -/
theorem position_add_grant (hp : c.position ≤ content.length) (r : Reader) (limit : Option Nat) :
    c.position + c.grant content (Stream.mk r limit).room =
      min (sliceEnd content c.position limit) ((c.position / chunkSize + 1) * chunkSize) := by
  unfold Cursor.grant room sliceEnd
  cases limit with
  | none =>
    simp only [chunkSize]
    omega
  | some most =>
    simp only [chunkSize]
    omega

/-- Where a stream gets as far as a fetch, its slice is not at its end. -/
theorem sliced_ne_nil (h : r.Tracks content token ids c) (hreach : r.Reaches) (hlimit : limit ≠ some 0) :
    sliced content c.position (sliceEnd content c.position limit) ≠ [] := by
  have hinside := hreach.inside
  rw [h.size, h.position] at hinside
  have hlt := lt_sliceEnd (Int.ofNat_lt.mp hinside) hlimit
  rw [sliced_of_lt hlt (sliceEnd_le ..) rfl]
  exact List.cons_ne_nil _ _

/-- A stream that ends is at the end of its slice, or a fetch has failed with the end of the stream. -/
theorem polled_last (hids : ids.length = (pieces content).length) (h : r.Tracks content token ids c)
    (hc : Cursor.Readable content c) (hnext : (Stream.mk r limit).next.Ends es .last)
    (hhonest : ∀ x ∈ es, x.Honest token ids (pieces content)) (n : Nat) :
    Polled (n + 1) (sliced content c.position (sliceEnd content c.position limit)) es
      (none :: List.replicate n none) := by
  refine ⟨fun hes => ?_, fun x hx e he => ?_⟩
  · cases next_tracks hids h hc hnext fun x hx => hhonest x hx (hes x hx) with
    | last hnone =>
      rw [sliced_of_le (sliceEnd_le_of_upTo hnone), List.map_nil, answersOf_nil]
      rfl
  · obtain ⟨hreach, hzero, hitem⟩ := next_fetchError hnext hx he
    have hend : e = .endOfStream := by
      by_contra hne
      rw [if_neg hne] at hitem
      cases hitem
    refine ⟨[], _, rfl, sliced_ne_nil h hreach hzero, Nat.succ_pos n, ?_⟩
    rw [cutShort, if_pos hend]
    exact (answersOf_nil (n + 1)).symm

/-- A stream that fails does so with the error of a fetch. -/
theorem polled_broken (hids : ids.length = (pieces content).length) (h : r.Tracks content token ids c)
    (hc : Cursor.Readable content c) {failure : StorageError}
    (hnext : (Stream.mk r limit).next.Ends es (.broken failure))
    (hhonest : ∀ x ∈ es, x.Honest token ids (pieces content)) (n : Nat) :
    Polled (n + 1) (sliced content c.position (sliceEnd content c.position limit)) es
      (some (.error failure) :: List.replicate n none) := by
  refine ⟨fun hes => ?_, fun x hx e he => ?_⟩
  · cases next_tracks hids h hc hnext fun x hx => hhonest x hx (hes x hx)
  · obtain ⟨hreach, hzero, hitem⟩ := next_fetchError hnext hx he
    have hsame : e ≠ .endOfStream ∧ failure = e := by
      split at hitem
      · cases hitem
      · next hne => exact ⟨hne, Item.broken.inj hitem⟩
    obtain ⟨hne, rfl⟩ := hsame
    refine ⟨[], _, rfl, sliced_ne_nil h hreach hzero, Nat.succ_pos n, ?_⟩
    rw [cutShort, if_neg hne]
    show _ = answersOf (n + 1) [.error failure]
    rw [answersOf_cons, answersOf_nil]

/-- No fetch of a stream has failed that has handed out a piece. -/
theorem fetchError?_of_next_piece {got : Bytes} {rest : Stream}
    (hnext : (Stream.mk r limit).next.Ends es (.piece got rest)) {x : Exchange} (hx : x ∈ es) :
    x.fetchError? = none := by
  rw [Option.eq_none_iff_forall_not_mem]
  intro e he
  obtain ⟨-, -, hitem⟩ := next_fetchError hnext hx he
  split at hitem <;> cases hitem

/-- **A stream polled** gives the pieces of its slice. -/
theorem polls_sliced (hids : ids.length = (pieces content).length) {n : Nat}
    {answers : List (Option (Except StorageError Bytes))} {s' : Option Stream}
    (h : r.Tracks content token ids c) (hc : Cursor.Readable content c)
    (hrun : (polls n (some ⟨r, limit⟩)).Ends es (answers, s'))
    (hhonest : ∀ x ∈ es, x.Honest token ids (pieces content)) :
    Polled n (sliced content c.position (sliceEnd content c.position limit)) es answers := by
  -- along the polls: a piece leaves a cursor that is further on, and a slice that ends at the same place
  induction n generalizing r c limit es answers with
  | zero =>
    obtain ⟨rfl, heq⟩ := hrun
    obtain ⟨rfl, -⟩ := Prod.mk.inj heq
    exact ⟨fun _ => rfl, fun x hx => absurd hx List.not_mem_nil⟩
  | succ n ih =>
    cases answers_of_polls hrun with
    | last hnext _ => exact polled_last hids h hc hnext hhonest n
    | broken hnext _ => exact polled_broken hids h hc hnext hhonest n
    | @piece es₁ es₂ _ _ more hnext hmore =>
      have hes₁ : ∀ x ∈ es₁, x.fetchError? = none := fun x hx => fetchError?_of_next_piece hnext hx
      have hhanded := next_tracks hids h hc hnext fun x hx =>
        hhonest x (List.mem_append_left _ hx) (hes₁ x hx)
      cases hhanded with
      | @piece k r₁ c₁ hgrant hpos hin hlimit htracks hmoved hreadable =>
        have hrest := ih htracks hreadable hmore fun x hx => hhonest x (List.mem_append_right _ hx)
        have hlt : c.position < sliceEnd content c.position limit := by
          refine lt_sliceEnd (by omega) fun hzero => ?_
          have hnone := hlimit 0 hzero
          omega
        rw [hmoved, sliceEnd_add hlimit] at hrest
        rw [sliced_of_lt hlt (sliceEnd_le ..) (hgrant ▸ position_add_grant (by omega) r limit)]
        have hpiece : content.extract c.position (c.position + k) = (content.drop c.position).take k := by
          rw [List.extract_eq_take_drop, Nat.add_sub_cancel_left]
        rw [hpiece]
        exact hrest.cons hes₁ _

end Stream

/-- **A stream hands out a slice, chunk by chunk.** Take an open reader of some content, and fetches that bring
the chunk in question or fail. However often its stream is polled, the answers are the pieces of the slice from
the position on, up to the limit: one for each chunk that the slice meets, none of them empty or longer than a
chunk, and all of them together the slice. Then there is nothing. Where a fetch fails, the answers are those
from before it, then its error, unless that is the end of the stream, and then nothing. -/
theorem stream_slices (hids : ids.length = (pieces content).length) (h : r.Tracks content token ids c)
    (hc : Cursor.Readable content c) (limit : Option Nat) :
    let stop := sliceEnd content c.position limit
    let slices := sliced content c.position stop
    slices.flatten = content.extract c.position stop ∧
      (∀ piece ∈ slices, piece ≠ [] ∧ piece.length ≤ chunkSize) ∧
      ∀ n es answers s', (Stream.polls n (some (r.stream limit))).Ends es (answers, s') →
        (∀ x ∈ es, x.Honest token ids (pieces content)) → Stream.Polled n slices es answers := by
  refine ⟨flatten_sliced (sliceEnd_le ..), fun piece => mem_sliced (sliceEnd_le ..), ?_⟩
  intro n es answers s' hrun hhonest
  exact Stream.polls_sliced hids h hc hrun hhonest

/-- One byte from the middle of three: the reader has been moved there, and the limit is one byte. -/
theorem stream_slices_middle :
    let content : Bytes := [97, 98, 99]
    let r : Reader := { new .own 3 [.ofNat 7] with position := 1 }
    let es : List Exchange := [⟨.race .own (.findChunk (.ofNat 7)), .finished (.ok (some content))⟩,
      ⟨.count .fetchChunk false, ()⟩]
    r.Tracks content .own [.ofNat 7] ⟨1, false, false⟩ ∧
      (Stream.polls 2 (some (r.stream (some 1)))).Ends es ([some (.ok [98]), none], none) ∧
      (sliced content 1 2).flatten = [98] ∧
      [some (.ok [98]), none] = Stream.answersOf 2 ((sliced content 1 2).map .ok) := by
  intro content r es
  have hpieces : pieces content = [content] := pieces_of_le (by decide) (by decide)
  have htracks : r.Tracks content .own [.ofNat 7] ⟨1, false, false⟩ := ⟨rfl, rfl, rfl, rfl, rfl, rfl, nofun⟩
  have hrun : (Stream.polls 2 (some (r.stream (some 1)))).Ends es ([some (.ok [98]), none], none) :=
    ⟨_, _, rfl, _, _, rfl, rfl, rfl⟩
  have hserved : ∀ x ∈ es, x.Serves .own [.ofNat 7] (pieces content) := by
    intro x hx
    rw [hpieces]
    rcases List.mem_cons.mp hx with rfl | hx
    · intro _ i chunk hid hchunk
      obtain rfl : i = 0 := by
        have hi := (List.getElem?_eq_some_iff.mp hid).1
        exact Nat.lt_one_iff.mp hi
      rw [Option.some.inj hchunk]
    · rw [List.mem_singleton.mp hx]
      exact trivial
  have hwhole : ∀ x ∈ es, x.fetchError? = none := by
    intro x hx
    rcases List.mem_cons.mp hx with rfl | hx
    · rfl
    · rw [List.mem_singleton.mp hx]
      rfl
  obtain ⟨hslice, -, hpolls⟩ := stream_slices (hpieces ▸ rfl) htracks ⟨rfl, nofun⟩ (some 1)
  exact ⟨htracks, hrun, hslice, (hpolls 2 es _ _ hrun fun x hx _ => hserved x hx).whole hwhole⟩

/-- A fetch that fails with the end of the stream ends the stream of three bytes before the first of them, and
there is no failure among the answers. -/
theorem stream_cut_short :
    let content : Bytes := [97, 98, 99]
    let r : Reader := new .own 3 [.ofNat 7]
    let es : List Exchange := [⟨.race .own (.findChunk (.ofNat 7)), .finished (.error .endOfStream)⟩,
      ⟨.count .fetchChunk false, ()⟩]
    r.Tracks content .own [.ofNat 7] .start ∧ (∃ x ∈ es, x.fetchError? = some .endOfStream) ∧
      (Stream.polls 2 (some (r.stream none))).Ends es ([none, none], none) ∧
      sliced content 0 (sliceEnd content 0 none) = [content] := by
  intro content r es
  have hstream : (Stream.polls 2 (some (r.stream none))).Ends es ([none, none], none) :=
    ⟨_, _, rfl, _, _, rfl, rfl, rfl⟩
  refine ⟨new_tracks content .own [.ofNat 7], ⟨_, List.mem_cons_self, rfl⟩, hstream, ?_⟩
  have hone : sliced content 0 3 = content.extract 0 3 :: sliced content 3 3 :=
    sliced_of_lt (by decide) (Nat.le_refl 3) rfl
  rw [sliced_of_le (Nat.le_refl 3)] at hone
  exact hone

end Reader
end ChunkVault
