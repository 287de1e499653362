/-
# ChunkVault.Proofs.Memory.Waiting -- the writes that wait in a transaction

A call that succeeds within a transaction adds exactly one write to those that wait there, and its reply
says which one (`CallRecord.Leaves`). A call that fails adds one or none. `Moves.adds` carries this over
whole lists of calls: what waits in a transaction is what its calls have left, and the ids of the rows
among it are ids that the store has issued meanwhile. The writes of an upload and of a removal follow.
-/
import Mathlib.Data.List.Nodup
import ChunkVault.Proofs.Memory.Surroundings

namespace ChunkVault

open Memory

/-- The write that a successful call leaves in its transaction. -/
inductive CallRecord.Leaves : CallRecord → Write → Prop
  | insertFile (tx : TxId) (id : Uuid) (now : Timestamp) :
      Leaves (.ok (.insertFile tx) id) (.insertFile ⟨id, 0, [], none, now, now⟩)
  | insertChunk (tx : TxId) (file : Uuid) (bytes : Bytes) (id : Uuid) :
      Leaves (.ok (.insertChunk tx file bytes) id) (.insertChunk ⟨id, file, bytes⟩)
  | finishFile (tx : TxId) (file : Uuid) (size : Int) (ids : List Uuid) :
      Leaves (.ok (.finishFile tx file size ids) ()) (.finishFile file size ids)
  | deleteChunks (tx : TxId) (file : Uuid) (rows : Nat) :
      Leaves (.ok (.deleteChunks tx file) rows) (.deleteChunks file)
  | deleteFile (tx : TxId) (file : Uuid) (rows : Nat) :
      Leaves (.ok (.deleteFile tx file) rows) (.deleteFile file)

/-- The writes are what these calls have left: one each by those that succeeded. -/
def LeftBy : List CallRecord → List Write → Prop
  | [], ws => ws = []
  | c :: l, ws => ∃ more rest, ws = more ++ rest ∧
      (∀ v, c.outcome = some (.ok v) → ∃ w, more = [w] ∧ c.Leaves w) ∧ LeftBy l rest

theorem leftBy_append {l m : List CallRecord} {ws : List Write} :
    LeftBy (l ++ m) ws ↔ ∃ ws₁ ws₂, ws = ws₁ ++ ws₂ ∧ LeftBy l ws₁ ∧ LeftBy m ws₂ := by
  induction l generalizing ws with
  | nil =>
    constructor
    · intro h
      exact ⟨[], ws, rfl, rfl, h⟩
    · rintro ⟨_, ws₂, rfl, rfl, h⟩
      exact h
  | cons c l ih =>
    constructor
    · rintro ⟨more, rest, rfl, hc, h⟩
      obtain ⟨ws₁, ws₂, rfl, h₁, h₂⟩ := ih.mp h
      exact ⟨more ++ ws₁, ws₂, (List.append_assoc ..).symm, ⟨more, ws₁, rfl, hc, h₁⟩, h₂⟩
    · rintro ⟨_, ws₂, rfl, ⟨more, ws₁, rfl, hc, h₁⟩, h₂⟩
      exact ⟨more, ws₁ ++ ws₂, List.append_assoc .., hc, ih.mpr ⟨ws₁, ws₂, rfl, h₁, h₂⟩⟩

/-- A successful call at the front has left the first of the writes. -/
theorem LeftBy.of_ok {q : Request} {v : q.Reply} {l : List CallRecord} {ws : List Write}
    (h : LeftBy (.ok q v :: l) ws) :
    ∃ w rest, ws = w :: rest ∧ (CallRecord.ok q v).Leaves w ∧ LeftBy l rest := by
  obtain ⟨more, rest, rfl, hc, h⟩ := h
  obtain ⟨w, rfl, hw⟩ := hc v rfl
  exact ⟨w, rest, rfl, hw, h⟩

/-! ## The writes of an upload and of a removal -/

/-- The writes of an upload, with the moment at which its file row was made. -/
def uploadWrites (made : Timestamp) (file : Uuid) (rows : List ChunkRecord) : List Write :=
  .insertFile ⟨file, 0, [], none, made, made⟩ ::
    (rows.map .insertChunk ++ [.finishFile file (totalSize rows) (rows.map (·.id))])

/-- The writes of a removal. -/
def removalWrites (id : Uuid) : List Write := [.deleteChunks id, .deleteFile id]

theorem leftBy_insertCalls {tx : TxId} {rows : List ChunkRecord} {ws : List Write}
    (h : LeftBy (insertCalls tx rows) ws) : ws = rows.map .insertChunk := by
  induction rows generalizing ws with
  | nil => exact h
  | cons c rows ih =>
    obtain ⟨w, rest, rfl, hw, hrest⟩ := h.of_ok
    cases hw
    rw [ih hrest]
    rfl

theorem LeftBy.upload {tx : TxId} {file : Uuid} {rows : List ChunkRecord} {ws : List Write}
    (h : LeftBy (uploadCalls tx file rows) ws) : ∃ made, ws = uploadWrites made file rows := by
  obtain ⟨w, rest, rfl, hw, h⟩ := h.of_ok
  obtain ⟨ws₁, ws₂, rfl, h₁, h₂⟩ := leftBy_append.mp h
  obtain ⟨w₂, _, rfl, hw₂, rfl⟩ := h₂.of_ok
  cases hw with
  | insertFile _ _ made =>
    cases hw₂
    rw [leftBy_insertCalls h₁]
    exact ⟨made, rfl⟩

theorem LeftBy.removal {tx : TxId} {id : Uuid} {chunks files : Nat} {ws : List Write}
    (h : LeftBy (removeCalls tx id chunks files) ws) : ws = removalWrites id := by
  obtain ⟨w, _, rfl, hw, h⟩ := h.of_ok
  obtain ⟨w₂, _, rfl, hw₂, rfl⟩ := h.of_ok
  cases hw
  cases hw₂
  rfl

/-! ## New ids -/

/-- The id of the row that a write inserts. -/
def Memory.Write.newId? : Write → Option Uuid
  | insertFile f => some f.id
  | insertChunk c => some c.id
  | finishFile .. | deleteChunks _ | deleteFile _ => none

/-- The ids of the rows that these writes insert. -/
def newIds (ws : List Write) : List Uuid := ws.filterMap Write.newId?

@[simp] theorem newIds_nil : newIds [] = [] := rfl

@[simp] theorem newIds_append (ws vs : List Write) : newIds (ws ++ vs) = newIds ws ++ newIds vs :=
  List.filterMap_append

theorem newIds_uploadWrites (made : Timestamp) (file : Uuid) (rows : List ChunkRecord) :
    newIds (uploadWrites made file rows) = file :: rows.map (·.id) := by
  have hrows : newIds (rows.map .insertChunk) = rows.map (·.id) := by
    rw [newIds, List.filterMap_map, ← List.filterMap_eq_map]
    rfl
  have hlast : newIds [.finishFile file (totalSize rows) (rows.map (·.id))] = [] := rfl
  show file :: newIds (rows.map .insertChunk ++ _) = _
  rw [newIds_append, hrows, hlast, List.append_nil]

/-- The ids that a store issues while its number of issued ids goes from `m` to `n`. -/
def issuedBetween (m n : Nat) : List Uuid := (List.range' m (n - m)).map Uuid.issue

theorem issuedBetween_self (n : Nat) : issuedBetween n n = [] := by
  rw [issuedBetween, Nat.sub_self]
  rfl

theorem issuedBetween_succ (n : Nat) : issuedBetween n (n + 1) = [Uuid.issue n] := by
  rw [issuedBetween, Nat.add_sub_cancel_left]
  rfl

theorem issuedBetween_append {l m n : Nat} (h : l ≤ m) (h' : m ≤ n) :
    issuedBetween l m ++ issuedBetween m n = issuedBetween l n := by
  obtain ⟨i, rfl⟩ := Nat.exists_eq_add_of_le h
  obtain ⟨j, rfl⟩ := Nat.exists_eq_add_of_le h'
  rw [issuedBetween, issuedBetween, issuedBetween, ← List.map_append, Nat.add_sub_cancel_left,
    Nat.add_sub_cancel_left, Nat.add_assoc, Nat.add_sub_cancel_left, List.range'_append_1]

/-- Ids come again only after all of them have been issued. -/
theorem issue_inj {m n : Nat} (hmn : m < n + Uuid.issueCount) (hnm : n < m + Uuid.issueCount)
    (h : Uuid.issue m = Uuid.issue n) : m = n := by
  have hbits := congrArg (fun id : Uuid => id.bits.toNat) h
  simp only [Uuid.issue, Uuid.ofNat, BitVec.toNat_ofNat, Uuid.issueBase, Uuid.issueCount]
    at hbits hmn hnm
  omega

/-- As long as no more of them are issued than there are, they are pairwise different. -/
theorem nodup_issuedBetween {m n : Nat} (h : n - m ≤ Uuid.issueCount) : (issuedBetween m n).Nodup := by
  refine List.Nodup.map_on ?_ List.nodup_range'
  intro i hi j hj heq
  rw [List.mem_range'_1] at hi hj
  exact issue_inj (by omega) (by omega) heq

/-- As long as they are pairwise different, no more of them are issued than there are. -/
theorem le_of_nodup_issuedBetween {n : Nat} (h : (issuedBetween 0 n).Nodup) : n ≤ Uuid.issueCount := by
  by_contra hlt
  have hfirst : 0 ∈ List.range' 0 (n - 0) := List.mem_range'_1.mpr (by omega)
  have hagain : Uuid.issueCount ∈ List.range' 0 (n - 0) := List.mem_range'_1.mpr (by omega)
  have hsame : Uuid.issue 0 = Uuid.issue Uuid.issueCount := by decide
  exact absurd (List.inj_on_of_nodup_map h hfirst hagain hsame) (by decide)

/-! ## Calls within a transaction -/

namespace Memory.Store

variable {lost : Request → Prop}

/-- The writes that wait in a transaction. -/
def waiting (s : Store) (tx : TxId) : List Write := (s.transaction tx).writes

theorem waiting_of_not_isOpen {s : Store} {tx : TxId} (h : s.isOpen tx = false) : s.waiting tx = [] := by
  rw [waiting, transaction_of_not_isOpen h]
  rfl

theorem waiting_push {s : Store} {tx : TxId} (h : s.isOpen tx = true) (w : Write) :
    (s.push tx w).waiting tx = s.waiting tx ++ [w] := by
  rw [waiting, transaction_push, if_pos ⟨rfl, h⟩]
  rfl

theorem waiting_discard (s : Store) (tx n : TxId) :
    (s.discard tx).waiting n = if n = tx then [] else s.waiting n := by
  rw [waiting, transaction_discard]
  split <;> rfl

/-- What a call has done that was made within an open transaction. -/
structure Adds (c : CallRecord) (tx : TxId) (s s' : Store) (more : List Write) : Prop where
  isOpen : s'.isOpen tx = true
  waiting : s'.waiting tx = s.waiting tx ++ more
  ids : newIds more = issuedBetween s.issued s'.issued
  leaves : ∀ v, c.outcome = some (.ok v) → ∃ w, more = [w] ∧ c.Leaves w

/-- A call that changed nothing but the number of tries of its transaction, and failed. -/
theorem Adds.of_failed {c : CallRecord} {tx : TxId} {s s' : Store} (hfail : c.Failed)
    (ho : s'.isOpen tx = true) (hw : s'.waiting tx = s.waiting tx) (hi : s'.issued = s.issued) :
    Adds c tx s s' [] where
  isOpen := ho
  waiting := by rw [hw, List.append_nil]
  ids := by rw [hi, issuedBetween_self, newIds_nil]
  leaves v hv := absurd hv (hfail v)

/-- A call that pushed its write, and issued the id of the row that it inserts, if it inserts one. -/
theorem Adds.of_push {q : Request} {v : q.Reply} {tx : TxId} {s s' : Store} {w : Write}
    (hleaves : (CallRecord.ok q v).Leaves w) (ho : s.isOpen tx = true)
    (hactive : s'.active = (s.push tx w).active)
    (hids : newIds [w] = issuedBetween s.issued s'.issued) : Adds (.ok q v) tx s s' [w] where
  isOpen := by
    have hsame : s'.isOpen tx = (s.push tx w).isOpen tx := by rw [Store.isOpen, hactive, Store.isOpen]
    rw [hsame, isOpen_push, ho]
  waiting := by
    rw [← waiting_push ho, Store.waiting, Store.waiting, transaction, transaction, hactive]
  ids := hids
  leaves v' hv := by
    obtain rfl := Except.ok.inj (Option.some.inj hv)
    exact ⟨w, rfl, hleaves⟩

/-- Counting a try of a transaction leaves its writes as they are. -/
theorem waiting_tried (s : Store) (tx : TxId) : (s.tried tx).waiting tx = s.waiting tx := by
  rw [waiting, tried, transaction_keep]
  split <;> rfl

/-- **A call that the store serves within an open transaction adds its write.** -/
theorem adds_serve {q : Request} {tx : TxId} {s : Store} (hq : q.writesTo? = some tx)
    (ho : s.isOpen tx = true) : ∃ more, Adds ⟨q, some (s.serve q).1⟩ tx s (s.serve q).2 more := by
  cases q with
  | insertFile n =>
    obtain rfl := Option.some.inj hq
    exact ⟨_, .of_push (.insertFile n _ _) ho rfl (issuedBetween_succ _).symm⟩
  | insertChunk n file bytes =>
    obtain rfl := Option.some.inj hq
    have hopen : (s.tried n).isOpen n = true := (isOpen_keep s n _ n).trans ho
    rcases serve_insertChunk_cases s n file bytes with ⟨-, e, hserve⟩ | ⟨-, hserve⟩
    · rw [hserve]
      exact ⟨_, .of_failed (fun v => nofun) hopen (waiting_tried s n) rfl⟩
    · rw [hserve]
      have h : Adds (.ok (.insertChunk n file bytes) (Uuid.issue s.issued)) n (s.tried n)
          (s.withChunk n file bytes) _ :=
        .of_push (.insertChunk n file bytes _) hopen rfl (issuedBetween_succ _).symm
      exact ⟨_, h.isOpen, h.waiting.trans (by rw [waiting_tried]), h.ids, h.leaves⟩
  | finishFile n file size ids =>
    obtain rfl := Option.some.inj hq
    rcases serve_finishFile_cases s n file size ids with ⟨-, hserve⟩ | ⟨-, hserve⟩
    · rw [hserve]
      exact ⟨_, .of_push (.finishFile n file size ids) ho rfl (issuedBetween_self _).symm⟩
    · rw [hserve]
      exact ⟨_, .of_failed (fun v => nofun) ho rfl rfl⟩
  | deleteChunks n file =>
    obtain rfl := Option.some.inj hq
    exact ⟨_, .of_push (.deleteChunks n file _) ho rfl (issuedBetween_self _).symm⟩
  | deleteFile n file =>
    obtain rfl := Option.some.inj hq
    exact ⟨_, .of_push (.deleteFile n file _) ho rfl (issuedBetween_self _).symm⟩
  | _ => cases hq

/-- A call within an open transaction adds a write or fails, however it ended. -/
theorem Made.adds {c : CallRecord} {tx : TxId} {s s' : Store} (h : Made lost c s s')
    (hq : c.request.writesTo? = some tx) (ho : s.isOpen tx = true) : ∃ more, Adds c tx s s' more := by
  obtain ⟨q, outcome⟩ := c
  cases outcome with
  | some o =>
    have hsettles : Settles lost q s o s' := h
    rcases hsettles with ⟨rfl, rfl⟩ | ⟨⟨e, rfl⟩, rfl | ⟨-, rfl⟩⟩
    · exact adds_serve hq ho
    · rw [afterFailure, closes?_of_writesTo? hq]
      exact ⟨[], .of_failed (fun v => nofun) ho rfl rfl⟩
    · obtain ⟨more, h⟩ := adds_serve hq ho
      exact ⟨more, h.isOpen, h.waiting, h.ids, fun v => nofun⟩
  | none =>
    rcases h with rfl | rfl
    · exact ⟨[], .of_failed (fun v => nofun) ho rfl rfl⟩
    · obtain ⟨more, h⟩ := adds_serve hq ho
      exact ⟨more, h.isOpen, h.waiting, h.ids, fun v => nofun⟩

/-- **What waits in a transaction is what the calls within it have left.** -/
theorem Moves.adds {l : List CallRecord} {tx : TxId} {s s' : Store} (h : Moves lost l s s')
    (hl : ∀ c ∈ l, c.request.writesTo? = some tx) (ho : s.isOpen tx = true) :
    ∃ ws, s'.isOpen tx = true ∧ s'.waiting tx = s.waiting tx ++ ws ∧
      newIds ws = issuedBetween s.issued s'.issued ∧ LeftBy l ws := by
  induction l generalizing s with
  | nil =>
    obtain ⟨n, rfl⟩ := h.exists_fetches
    exact ⟨[], ho, (List.append_nil _).symm, (issuedBetween_self _).symm, rfl⟩
  | cons c l ih =>
    obtain ⟨s₀, s₁, hlook, hmade, h⟩ := h
    obtain ⟨n, rfl⟩ := hlook.exists_fetches
    obtain ⟨more, hadd⟩ := hmade.adds (hl c List.mem_cons_self) ho
    obtain ⟨ws, ho', hw, hids, hleft⟩ := ih h (fun c' hc' => hl c' (List.mem_cons_of_mem c hc')) hadd.isOpen
    -- ids are only used up, so what the first call has issued comes before what the others have
    have hle : s.issued ≤ s₁.issued := hmade.frame.issued
    have hle' : s₁.issued ≤ s'.issued :=
      h.invariant (I := fun t => s₁.issued ≤ t.issued)
        (fun _ _ hl hi => Nat.le_trans hi (hl.frame .begin).issued)
        (fun _ _ _ _ hm hi => Nat.le_trans hi hm.frame.issued) (Nat.le_refl _)
    refine ⟨more ++ ws, ho', ?_, ?_, more, ws, rfl, hadd.leaves, hleft⟩
    · rw [hw, hadd.waiting, List.append_assoc]
      rfl
    · rw [newIds_append, hadd.ids, hids]
      exact issuedBetween_append hle hle'

end Memory.Store
end ChunkVault
