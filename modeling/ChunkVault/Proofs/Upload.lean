/-
# ChunkVault.Proofs.Upload -- the calls that an upload makes

The calls of an upload follow a script: a file row, a chunk row for every piece of the content, and the
size and the order of the chunks at last. `uploadCalls` is that script for the rows that came of it, and
`Attempts` says of calls that they follow a script as far as they go: they break off before its end, and
the last of them may be one that failed.

The statements hold of every trace, so of every store and every token. `writeFile_ends`: an upload that
succeeds has made exactly the calls of its script, with the pieces of what its source delivers; one that
does not has only attempted them, and there was a reason for it: the source failed, or an exchange
hindered the upload.
-/
import ChunkVault.Writer
import ChunkVault.Proofs.Delivery
import ChunkVault.Proofs.Trace

namespace ChunkVault

open Program

/-- An exchange that keeps an operation from going on: a call that failed or was given up, or a token
that was found to have fired or waited for until it did. -/
def Exchange.Hinders (token : Token) : Exchange → Prop
  | ⟨.call _, outcome⟩ => ∃ e, outcome = .error e
  | ⟨.race t _, race⟩ => t = token ∧ ∃ e, race.outcome = .error e
  | ⟨.fired t, answer⟩ => t = token ∧ answer = true
  | ⟨.wait t, _⟩ => t = token
  | ⟨.fire _, _⟩ | ⟨.count .., _⟩ => False

/-- Whether anything in a trace kept the operation from going on. -/
def Hindered (token : Token) (es : List Exchange) : Prop := ∃ x ∈ es, x.Hinders token

theorem Hindered.of_mem {token : Token} {es fs : List Exchange} (h : Hindered token es)
    (hsub : ∀ x ∈ es, x ∈ fs) : Hindered token fs := by
  obtain ⟨x, hx, hh⟩ := h
  exact ⟨x, hsub x hx, hh⟩

theorem Hindered.left {token : Token} {es : List Exchange} (h : Hindered token es)
    (fs : List Exchange) : Hindered token (es ++ fs) :=
  h.of_mem fun _ hx => List.mem_append_left fs hx

theorem Hindered.right {token : Token} {fs : List Exchange} (es : List Exchange)
    (h : Hindered token fs) : Hindered token (es ++ fs) :=
  h.of_mem fun _ hx => List.mem_append_right es hx

/-! ## Scripts -/

/-- The calls follow the script as far as they go and break off before its end; the last of them may be
one that failed. -/
def Attempts (l script : List CallRecord) : Prop :=
  ∃ done next rest, script = done ++ next :: rest ∧
    (l = done ∨ ∃ c, l = done ++ [c] ∧ c.request = next.request ∧ c.Failed)

namespace Attempts

theorem nil {next : CallRecord} {rest : List CallRecord} : Attempts [] (next :: rest) :=
  ⟨[], next, rest, rfl, .inl rfl⟩

theorem failed {c next : CallRecord} {rest : List CallRecord} (h : c.request = next.request)
    (hc : c.Failed) : Attempts [c] (next :: rest) :=
  ⟨[], next, rest, rfl, .inr ⟨c, rfl, h, hc⟩⟩

theorem append_left {l script : List CallRecord} (front : List CallRecord) (h : Attempts l script) :
    Attempts (front ++ l) (front ++ script) := by
  obtain ⟨done, next, rest, rfl, h⟩ := h
  refine ⟨front ++ done, next, rest, (List.append_assoc ..).symm, ?_⟩
  rcases h with rfl | ⟨c, rfl, h⟩
  · exact .inl rfl
  · exact .inr ⟨c, (List.append_assoc ..).symm, h⟩

/-- A call that was not made, or brought nothing, breaks a script off where it stands in it. -/
theorem of_try {l : List CallRecord} {q : Request} {next : CallRecord} (rest : List CallRecord)
    (h : l = [] ∨ ∃ c, l = [c] ∧ c.request = q ∧ c.Failed) (hq : q = next.request) :
    Attempts l (next :: rest) := by
  rcases h with rfl | ⟨c, rfl, hreq, hfail⟩
  · exact .nil
  · exact .failed (hreq.trans hq) hfail

/-- Every call that was made is in the script, at least as far as what was asked. -/
theorem request_mem {l script : List CallRecord} (h : Attempts l script) {c : CallRecord}
    (hc : c ∈ l) : ∃ c' ∈ script, c.request = c'.request := by
  obtain ⟨done, next, rest, rfl, rfl | ⟨c', rfl, h, -⟩⟩ := h
  · exact ⟨c, List.mem_append_left _ hc, rfl⟩
  · rcases List.mem_append.mp hc with hc | hc
    · exact ⟨c, List.mem_append_left _ hc, rfl⟩
    · rw [List.mem_singleton.mp hc]
      exact ⟨next, List.mem_append_right _ List.mem_cons_self, h⟩

end Attempts

/-! ## The script of an upload -/

/-- These are chunk rows of this file, with these contents in this order. -/
structure RowsOf (file : Uuid) (chunks : List Bytes) (rows : List ChunkRecord) : Prop where
  owner : ∀ c ∈ rows, c.fileId = file
  bytes : rows.map (·.bytes) = chunks

namespace RowsOf

theorem nil (file : Uuid) : RowsOf file [] [] := ⟨fun _ h => absurd h List.not_mem_nil, rfl⟩

theorem cons {file : Uuid} {chunks : List Bytes} {rows : List ChunkRecord} (id : Uuid) (chunk : Bytes)
    (h : RowsOf file chunks rows) : RowsOf file (chunk :: chunks) (⟨id, file, chunk⟩ :: rows) := by
  refine ⟨?_, by rw [List.map_cons, h.bytes]⟩
  intro c hc
  rcases List.mem_cons.mp hc with rfl | hc
  · rfl
  · exact h.owner c hc

theorem exists_of (file : Uuid) (chunks : List Bytes) : ∃ rows, RowsOf file chunks rows := by
  induction chunks with
  | nil => exact ⟨[], .nil file⟩
  | cons chunk chunks ih =>
    obtain ⟨rows, h⟩ := ih
    exact ⟨_, h.cons file chunk⟩

/-- Rows of the pieces of some content hold that content. -/
theorem flatten {file : Uuid} {content : Bytes} {rows : List ChunkRecord}
    (h : RowsOf file (pieces content) rows) : (rows.map (·.bytes)).flatten = content := by
  rw [h.bytes, flatten_pieces]

/-- There is an id for each chunk. -/
theorem length_ids {file : Uuid} {chunks : List Bytes} {rows : List ChunkRecord} (h : RowsOf file chunks rows) :
    (rows.map (·.id)).length = chunks.length := by
  rw [← h.bytes, List.length_map, List.length_map]

/-- The ids and the chunks of an upload are those of its rows, in the same order. -/
theorem exists_row {file : Uuid} {chunks : List Bytes} {rows : List ChunkRecord}
    (h : RowsOf file chunks rows) {i : Nat} {id : Uuid} {chunk : Bytes}
    (hid : (rows.map (·.id))[i]? = some id) (hchunk : chunks[i]? = some chunk) :
    ∃ row ∈ rows, row.id = id ∧ row.bytes = chunk := by
  rw [List.getElem?_map] at hid
  rw [← h.bytes, List.getElem?_map] at hchunk
  obtain ⟨row, hrow, hid⟩ := Option.map_eq_some_iff.mp hid
  rw [hrow] at hchunk
  exact ⟨row, List.mem_of_getElem? hrow, hid, Option.some.inj hchunk⟩

end RowsOf

/-- The number of bytes in these rows. -/
def totalSize : List ChunkRecord → Int
  | [] => 0
  | c :: rows => c.bytes.length + totalSize rows

theorem totalSize_eq (rows : List ChunkRecord) :
    totalSize rows = (rows.map (·.bytes)).flatten.length := by
  induction rows with
  | nil => rfl
  | cons c rows ih =>
    rw [totalSize, ih, List.map_cons, List.flatten_cons, List.length_append, Int.natCast_add]

/-- What an upload has noted after these rows. -/
def Written.addRows (w : Written) (rows : List ChunkRecord) : Written :=
  ⟨w.size + totalSize rows, w.chunkIds ++ rows.map (·.id)⟩

theorem Written.addRows_nil (w : Written) : w.addRows [] = w := by
  rw [addRows, totalSize, Int.add_zero, List.map_nil, List.append_nil]

theorem Written.add_addRows (w : Written) (c : ChunkRecord) (rows : List ChunkRecord) :
    (w.add c.id c.bytes.length).addRows rows = w.addRows (c :: rows) := by
  rw [addRows, addRows, add, totalSize, Int.add_assoc, List.append_assoc]
  rfl

/-- The calls that have inserted these rows. -/
def insertCalls (tx : TxId) (rows : List ChunkRecord) : List CallRecord :=
  rows.map fun c => .ok (.insertChunk tx c.fileId c.bytes) c.id

theorem insertCalls_cons (tx : TxId) (c : ChunkRecord) (rows : List ChunkRecord) :
    insertCalls tx (c :: rows) =
      [.ok (.insertChunk tx c.fileId c.bytes) c.id] ++ insertCalls tx rows := rfl

/-- The call that has noted the size and the order of these rows. -/
def finishCall (tx : TxId) (file : Uuid) (rows : List ChunkRecord) : CallRecord :=
  .ok (.finishFile tx file (totalSize rows) (rows.map (·.id))) ()

/-- The calls of an upload that came to its end, with the rows that it made. -/
def uploadCalls (tx : TxId) (file : Uuid) (rows : List ChunkRecord) : List CallRecord :=
  .ok (.insertFile tx) file :: (insertCalls tx rows ++ [finishCall tx file rows])

/-- Every call of an upload is made in its transaction, and none closes it. -/
theorem uploadCalls_request {tx : TxId} {file : Uuid} {rows : List ChunkRecord} {c : CallRecord}
    (h : c ∈ uploadCalls tx file rows) : c.request = .insertFile tx ∨
      (∃ owner bytes, c.request = .insertChunk tx owner bytes) ∨
      ∃ size ids, c.request = .finishFile tx file size ids := by
  rcases List.mem_cons.mp h with rfl | h
  · exact .inl rfl
  · rcases List.mem_append.mp h with h | h
    · obtain ⟨row, -, rfl⟩ := List.mem_map.mp h
      exact .inr (.inl ⟨row.fileId, row.bytes, rfl⟩)
    · rw [List.mem_singleton.mp h]
      exact .inr (.inr ⟨totalSize rows, rows.map (·.id), rfl⟩)

/-! ## Waiting for the source -/

theorem fire_ends {names : List String} {es : List Exchange} {u : Unit}
    (h : (fire names).Ends es u) : calls es = [] := by
  unfold fire at h
  by_cases hn : names.isEmpty
  · rw [if_pos hn] at h
    rw [h.1, calls_nil]
  · rw [if_neg hn] at h
    obtain ⟨a, rest, rfl, rfl, -⟩ := h
    rfl

/-- Waiting makes no calls, and it is given up only for a token that has fired. -/
theorem waitOut_ends {token : Token} {pauses : List (List String)} {es : List Exchange}
    {r : Except StorageError Unit} (h : (waitOut token pauses).Ends es r) :
    calls es = [] ∧ (r = .ok () ∨ r = .error .cancelled ∧ Hindered token es) := by
  induction pauses generalizing es with
  | nil =>
    obtain ⟨rfl, rfl⟩ := h
    exact ⟨rfl, .inl rfl⟩
  | cons fires pauses ih =>
    unfold waitOut at h
    simp only [bind_eq, ends_bind, ends_fired] at h
    obtain ⟨es₁, _, u, rfl, h₁, _, es₂, b, rfl, rfl, h₂⟩ := h
    have hc₁ := fire_ends h₁
    cases b with
    | true =>
      obtain ⟨rfl, rfl⟩ := h₂
      refine ⟨by rw [calls_append, hc₁]; rfl, .inr ⟨rfl, ?_⟩⟩
      exact ⟨⟨.fired token, true⟩, by simp, rfl, rfl⟩
    | false =>
      obtain ⟨hc₂, hr⟩ := ih h₂
      refine ⟨by rw [calls_append, calls_append, hc₁, hc₂]; rfl, ?_⟩
      exact hr.imp_right fun ⟨hr, hh⟩ => ⟨hr, (hh.right _).right _⟩

/-- Taking a fill makes no calls. What it brings is the content of the fill. -/
theorem pull_ends {token : Token} {fill : Fill} {es : List Exchange} {r : Except StorageError Bytes}
    (h : (pull token fill).Ends es r) :
    calls es = [] ∧
      ((∃ content, r = .ok content ∧ fill.result = .filled content) ∨
        ∃ e, r = .error e ∧ (Hindered token es ∨ ∀ content, fill.result ≠ .filled content)) := by
  unfold pull at h
  simp only [bind_eq, ends_bind, ends_fired] at h
  obtain ⟨_, es₁, b, rfl, rfl, h⟩ := h
  cases b with
  | true =>
    obtain ⟨rfl, rfl⟩ := h
    exact ⟨rfl, .inr ⟨_, rfl, .inl ⟨⟨.fired token, true⟩, by simp, rfl, rfl⟩⟩⟩
  | false =>
    simp only [Bool.false_eq_true, if_false, ends_bind] at h
    obtain ⟨es₂, es₃, w, rfl, hw, h⟩ := h
    obtain ⟨hc₂, hr⟩ := waitOut_ends hw
    rcases hr with rfl | ⟨rfl, hh⟩
    · simp only [ends_bind] at h
      obtain ⟨es₄, es₅, u, rfl, hf, h⟩ := h
      have hc₄ := fire_ends hf
      have hc : calls ([⟨.fired token, false⟩] ++ (es₂ ++ (es₄ ++ es₅))) = calls es₅ := by
        rw [calls_append, calls_append, calls_append, hc₂, hc₄]
        rfl
      rw [hc]
      cases hres : fill.result with
      | filled content =>
        simp only [hres] at h
        obtain ⟨rfl, rfl⟩ := h
        exact ⟨rfl, .inl ⟨content, rfl, rfl⟩⟩
      | failed e =>
        simp only [hres] at h
        obtain ⟨rfl, rfl⟩ := h
        exact ⟨rfl, .inr ⟨_, rfl, .inr fun content => FillEnd.noConfusion⟩⟩
      | stalled =>
        simp only [hres, ends_bind] at h
        obtain ⟨_, _, _, rfl, hwait, rfl, rfl⟩ := h
        obtain rfl := ends_wait.mp hwait
        exact ⟨rfl, .inr ⟨_, rfl, .inr fun content => FillEnd.noConfusion⟩⟩
    · obtain ⟨rfl, rfl⟩ := h
      refine ⟨by rw [calls_append, calls_append, hc₂]; rfl, .inr ⟨_, rfl, .inl ?_⟩⟩
      exact (hh.left []).right _

/-! ## Inserting the chunks -/

/-- What a call that is raced against the token adds to the calls, by what it comes to: one that brings
nothing has either not been made, or is noted as a failed one. -/
theorem race_ends {token : Token} {q : Request} {es : List Exchange} {o : q.Outcome}
    (h : (race token q).Ends es o) :
    (∃ v, o = .ok v ∧ calls es = [.ok q v]) ∨
      ∃ e, o = .error e ∧ Hindered token es ∧
        (calls es = [] ∨ ∃ c, calls es = [c] ∧ c.request = q ∧ c.Failed) := by
  obtain ⟨race, rfl, rfl⟩ := ends_race.mp h
  have hinders : ∀ e, race.outcome = .error e → Hindered token [⟨.race token q, race⟩] :=
    fun e he => ⟨_, List.mem_singleton.mpr rfl, rfl, e, he⟩
  cases race with
  | refused => exact .inr ⟨_, rfl, hinders _ rfl, .inl rfl⟩
  | abandoned => exact .inr ⟨_, rfl, hinders _ rfl, .inr ⟨⟨q, none⟩, rfl, rfl, fun v => nofun⟩⟩
  | finished o =>
    cases o with
    | ok v => exact .inl ⟨v, rfl, rfl⟩
    | error e =>
      exact .inr ⟨e, rfl, hinders e rfl, .inr ⟨⟨q, some (.error e)⟩, rfl, rfl, fun v => nofun⟩⟩

/-- How an upload that has come to its end with an error relates to its script: it broke off, and there
was a reason for it. -/
def BreaksOff (token : Token) (tx : TxId) (file : Uuid) (e : SourceEnd) (content : Bytes)
    (es : List Exchange) : Prop :=
  (∃ rows, RowsOf file (pieces content) rows ∧
    ∀ last, Attempts (calls es) (insertCalls tx rows ++ [last])) ∧
  (Hindered token es ∨ e ≠ .ended)

/-- An upload that has not made a call yet may break off anywhere. -/
theorem BreaksOff.of_calls_nil {token : Token} {tx : TxId} {file : Uuid} {e : SourceEnd}
    {content : Bytes} {es : List Exchange} (hc : calls es = [])
    (hwhy : Hindered token es ∨ e ≠ .ended) : BreaksOff token tx file e content es := by
  obtain ⟨rows, hrows⟩ := RowsOf.exists_of file (pieces content)
  refine ⟨⟨rows, hrows, fun last => ?_⟩, hwhy⟩
  rw [hc]
  cases insertCalls tx rows <;> exact .nil

/-- **The chunk inserts of an upload.** If they come to their end, the source has ended and the rows are
the pieces of its content; if not, they follow the script of such rows to where they break off. -/
theorem writeChunks_ends {token : Token} {tx : TxId} {file : Uuid} {e : SourceEnd} {content : Bytes}
    {fills : List Fill} {written : Written} {es : List Exchange} {r : Except StorageError Written}
    (hf : fills.map (·.result) = e.fillResults content)
    (h : (writeChunks token tx file fills written).Ends es r) :
    (∃ rows, r = .ok (written.addRows rows) ∧ e = .ended ∧ RowsOf file (pieces content) rows ∧
        calls es = insertCalls tx rows) ∨
      ∃ err, r = .error err ∧ BreaksOff token tx file e content es := by
  -- along the fills: a whole chunk is inserted and the rest follows, the last fill decides the end
  induction fills generalizing content written es with
  | nil =>
    rw [SourceEnd.fillResults, List.map_nil] at hf
    split at hf <;> cases hf
  | cons fill fills ih =>
    rw [List.map_cons] at hf
    unfold writeChunks at h
    simp only [bind_eq, ends_bind] at h
    obtain ⟨es₁, es₂, taken, rfl, hpull, h⟩ := h
    obtain ⟨hc₁, ⟨got, rfl, hgot⟩ | ⟨err, rfl, hwhy⟩⟩ := pull_ends hpull
    · rw [hgot] at hf
      obtain ⟨rfl, hrest⟩ := SourceEnd.fillResults_filled hf
      by_cases hempty : content = []
      · -- nothing is left: the source has ended
        subst hempty
        obtain ⟨rfl, rfl⟩ := h
        obtain ⟨hle, -⟩ | ⟨-, rfl⟩ := hrest
        · exact absurd hle (by decide)
        · refine .inl ⟨[], by rw [Written.addRows_nil], rfl, ?_, ?_⟩
          · rw [pieces_nil]
            exact .nil file
          · rw [List.append_nil, hc₁, insertCalls, List.map_nil]
      · have hpieces := pieces_of_ne_nil hempty
        have hne : (content.take chunkSize).isEmpty = false := by
          rw [List.isEmpty_eq_false_iff, Ne, List.take_eq_nil_iff, not_or]
          exact ⟨Nat.ne_of_gt chunkSize_pos, hempty⟩
        simp only [hne, Bool.false_eq_true, if_false, ends_bind] at h
        obtain ⟨es₃, es₄, o, rfl, hrace, h⟩ := h
        obtain ⟨id, rfl, hc₃⟩ | ⟨err, rfl, hh, hc₃⟩ := race_ends hrace
        · have hc : calls (es₁ ++ (es₃ ++ es₄)) =
              [.ok (.insertChunk tx file (content.take chunkSize)) id] ++ calls es₄ := by
            rw [calls_append, calls_append, hc₁, hc₃]
            rfl
          obtain ⟨hle, hrest⟩ | ⟨hlt, rfl⟩ := hrest
          · -- a whole chunk: the rest of the content follows
            have hlen : (content.take chunkSize).length = chunkSize := List.length_take_of_le hle
            simp only [hlen, Nat.lt_irrefl, if_false] at h
            obtain ⟨rows, rfl, rfl, hrows, hc₄⟩ | ⟨err, rfl, ⟨rows, hrows, hatt⟩, hwhy⟩ :=
              ih hrest h
            · refine .inl ⟨⟨id, file, content.take chunkSize⟩ :: rows, ?_, rfl, ?_, ?_⟩
              · rw [← Written.add_addRows, hlen]
              · rw [hpieces]
                exact hrows.cons id _
              · rw [hc, hc₄, insertCalls_cons]
            · refine .inr ⟨err, rfl,
                ⟨⟨id, file, content.take chunkSize⟩ :: rows, ?_, fun last => ?_⟩, ?_⟩
              · rw [hpieces]
                exact hrows.cons id _
              · rw [hc, insertCalls_cons, List.append_assoc]
                exact (hatt last).append_left _
              · exact hwhy.imp_left fun hh => (hh.right _).right _
          · -- the last chunk is short, and nothing is read after it
            have htake := List.take_of_length_le (Nat.le_of_lt hlt)
            simp only [htake, if_pos hlt] at h
            obtain ⟨rfl, rfl⟩ := h
            refine .inl ⟨[⟨id, file, content.take chunkSize⟩], ?_, rfl, ?_, ?_⟩
            · rw [← Written.add_addRows, Written.addRows_nil, htake]
            · rw [hpieces, List.drop_of_length_le (Nat.le_of_lt hlt), pieces_nil]
              exact (RowsOf.nil file).cons id _
            · rw [hc]
              rfl
        · -- the insert failed: no row came of it, and any id can stand in the script
          obtain ⟨rfl, rfl⟩ := h
          obtain ⟨rows, hrows⟩ := RowsOf.exists_of file (pieces (content.drop chunkSize))
          have hc : calls (es₁ ++ (es₃ ++ [])) = calls es₃ := by
            rw [calls_append, calls_append, hc₁, calls_nil, List.nil_append, List.append_nil]
          refine .inr ⟨err, rfl, ⟨⟨file, file, content.take chunkSize⟩ :: rows, ?_, fun last => ?_⟩,
            .inl ((hh.left _).right _)⟩
          · rw [hpieces]
            exact hrows.cons file _
          · rw [hc, insertCalls_cons]
            exact .of_try _ hc₃ rfl
    · obtain ⟨rfl, rfl⟩ := h
      refine .inr ⟨err, rfl, .of_calls_nil (by rw [List.append_nil, hc₁]) ?_⟩
      rcases hwhy with hh | hnot
      · exact .inl (hh.left _)
      · exact .inr (SourceEnd.ne_ended_of_not_filled hf hnot)

/-! ## The whole upload -/

/-- **The calls of an upload.** One that succeeds has written exactly what its source delivered, by the
calls of its script; one that fails has attempted them, and was hindered or had a source that failed. -/
theorem writeFile_ends {token : Token} {tx : TxId} {source : Source} {es : List Exchange}
    {r : Except StorageError Uuid} (h : (writeFile token tx source).Ends es r) :
    (∃ file rows, r = .ok file ∧ source.ending = .ended ∧
        RowsOf file (pieces source.delivered) rows ∧ calls es = uploadCalls tx file rows) ∨
      ∃ err file rows, r = .error err ∧ RowsOf file (pieces source.delivered) rows ∧
        Attempts (calls es) (uploadCalls tx file rows) ∧
        (Hindered token es ∨ source.ending ≠ .ended) := by
  unfold writeFile at h
  simp only [bind_eq, ends_bind] at h
  obtain ⟨es₁, es₂, o, rfl, hrace, h⟩ := h
  obtain ⟨file, rfl, hc₁⟩ | ⟨err, rfl, hh, hc₁⟩ := race_ends hrace
  · simp only [ends_bind] at h
    obtain ⟨es₃, es₄, w, rfl, hwrite, h⟩ := h
    obtain ⟨rows, rfl, hend, hrows, hc₃⟩ | ⟨err, rfl, ⟨rows, hrows, hatt⟩, hwhy⟩ :=
      writeChunks_ends source.fills_results hwrite
    · have hw : Written.empty.addRows rows = ⟨totalSize rows, rows.map (·.id)⟩ := by
        rw [Written.addRows, Written.empty, Int.zero_add, List.nil_append]
      rw [hw] at h
      simp only [ends_bind] at h
      obtain ⟨es₅, es₆, o, rfl, hrace, h⟩ := h
      obtain ⟨_, rfl, hc₅⟩ | ⟨err, rfl, hh, hc₅⟩ := race_ends hrace
      · obtain ⟨rfl, rfl⟩ := h
        refine .inl ⟨file, rows, rfl, hend, hrows, ?_⟩
        rw [calls_append, calls_append, calls_append, hc₁, hc₃, hc₅]
        rfl
      · -- all chunks are inserted, but the file is not finished
        obtain ⟨rfl, rfl⟩ := h
        refine .inr ⟨err, file, rows, rfl, hrows, ?_, .inl ?_⟩
        · rw [calls_append, calls_append, calls_append, hc₁, hc₃, calls_nil, List.append_nil]
          exact Attempts.append_left [_] (Attempts.append_left _ (.of_try _ hc₅ rfl))
        · exact ((hh.left _).right _).right _
    · obtain ⟨rfl, rfl⟩ := h
      refine .inr ⟨err, file, rows, rfl, hrows, ?_, ?_⟩
      · rw [calls_append, calls_append, hc₁, calls_nil, List.append_nil]
        exact (hatt (finishCall tx file rows)).append_left [_]
      · exact hwhy.imp_left fun hh => (hh.left _).right _
  · -- there is no file row, so the id in the script is of no account
    obtain ⟨rfl, rfl⟩ := h
    obtain ⟨rows, hrows⟩ := RowsOf.exists_of (.ofNat 0) (pieces source.delivered)
    refine .inr ⟨err, .ofNat 0, rows, rfl, hrows, ?_, .inl (hh.left _)⟩
    rw [calls_append, calls_nil, List.append_nil]
    exact .of_try _ hc₁ rfl

end ChunkVault
