/-
# ChunkVault.Proofs.Sql.Correspondence -- the same rows under other ids and other stamps

Two stores that have been told the same need not hold the same rows: each issues ids of its own, and each has
a clock of its own. What can be said is that the rows are the same under a renaming. For ids this is
`Uuid.shift n`, a permutation that sends the `k`-th id of one store to the `k`-th id of another which has
issued `n` before, and leaves alone all ids that no store issues. For stamps it is a `Stamps`, a one-to-one
matching that grows with every row that is written.

`Tables.Alike` relates the tables of a store in memory to the rows of a database in this way. It is kept by
every change of the tables together with the corresponding change of the rows.
-/
import Mathlib.Data.List.Forall2
import Mathlib.Logic.Equiv.Defs
import Mathlib.Order.Basic
import ChunkVault.Proofs.Memory.Buffering
import ChunkVault.Proofs.Sql.Relational

namespace ChunkVault

/-! ## Ids -/

namespace Uuid

/-- Whether this is an id that a store issues. -/
def IsIssued (id : Uuid) : Prop := id.bits.toNat / issueCount = issueBase / issueCount

instance (id : Uuid) : Decidable id.IsIssued := inferInstanceAs (Decidable (_ = _))

/-- The place of an id among those that a store issues. -/
def place (id : Uuid) : Nat := id.bits.toNat % issueCount

theorem toNat_issue (n : Nat) : (issue n).bits.toNat = issueBase + n % issueCount := by
  simp only [issue, ofNat, BitVec.toNat_ofNat, issueBase, issueCount]
  omega

theorem isIssued_issue (n : Nat) : (issue n).IsIssued := by
  rw [IsIssued, toNat_issue]
  simp only [issueBase, issueCount]
  omega

theorem place_issue (n : Nat) : (issue n).place = n % issueCount := by
  rw [place, toNat_issue]
  simp only [issueBase, issueCount]
  omega

theorem issue_place {id : Uuid} (h : id.IsIssued) : issue id.place = id := by
  have hbits : (issue id.place).bits.toNat = id.bits.toNat := by
    rw [toNat_issue]
    simp only [IsIssued, place, issueBase, issueCount] at h ⊢
    omega
  obtain ⟨bits⟩ := id
  exact congrArg Uuid.mk (BitVec.eq_of_toNat_eq hbits)

/-- Only the place among the ids that can be issued matters. -/
theorem issue_congr {m n : Nat} (h : m % issueCount = n % issueCount) : issue m = issue n := by
  rw [issue, issue, h]

/-- Moves an id by `n` places among those that a store issues. -/
def move (n : Nat) (id : Uuid) : Uuid := if id.IsIssued then issue (n + id.place) else id

theorem move_issue (n k : Nat) : move n (issue k) = issue (n + k) := by
  rw [move, if_pos (isIssued_issue k), place_issue]
  exact issue_congr (Nat.add_mod_mod n k issueCount)

/-- Two moves that make up whole rounds lead back. -/
theorem move_move {m n : Nat} (h : (m + n) % issueCount = 0) (id : Uuid) : move m (move n id) = id := by
  by_cases hid : id.IsIssued
  · obtain ⟨k, rfl⟩ : ∃ k, id = issue k := ⟨id.place, (issue_place hid).symm⟩
    rw [move_issue, move_issue, ← Nat.add_assoc]
    refine issue_congr ?_
    rw [Nat.add_mod, h, Nat.zero_add, Nat.mod_mod]
  · rw [move, move, if_neg hid, if_neg hid]

/-- The move that leads back from a move by `n`. -/
def back (n : Nat) : Nat := issueCount - n % issueCount

theorem back_add_mod (n : Nat) : (back n + n) % issueCount = 0 := by
  simp only [back, issueCount]
  omega

theorem move_back (n : Nat) : Function.LeftInverse (move (back n)) (move n) := move_move (back_add_mod n)

theorem back_move (n : Nat) : Function.RightInverse (move (back n)) (move n) :=
  move_move (Nat.add_comm n (back n) ▸ back_add_mod n)

/-- **The renaming of ids** that sends what one store issues to what another issues which is ahead by `n`. -/
def shift (n : Nat) : Equiv.Perm Uuid where
  toFun := move n
  invFun := move (back n)
  left_inv := move_back n
  right_inv := back_move n

theorem shift_issue (n k : Nat) : shift n (issue k) = issue (n + k) := move_issue n k

end Uuid

/-! ## Stamps -/

/-- **A renaming of stamps**: pairs of stamps, in which every stamp has at most one partner. -/
structure Stamps where
  pairs : List (Timestamp × Timestamp)
  left : (pairs.map (·.1)).Nodup
  right : (pairs.map (·.2)).Nodup

namespace Stamps

/-- The stamps are partners. -/
def Match (τ : Stamps) (t u : Timestamp) : Prop := (t, u) ∈ τ.pairs

/-- No stamps at all. -/
def empty : Stamps := ⟨[], .nil, .nil⟩

/-- More pairs make a greater renaming. -/
instance : Preorder Stamps where
  le τ τ' := τ.pairs ⊆ τ'.pairs
  le_refl τ := List.Subset.refl τ.pairs
  le_trans _ _ _ h h' := List.Subset.trans h h'

theorem Match.mono {τ τ' : Stamps} (h : τ ≤ τ') {t u : Timestamp} (htu : τ.Match t u) : τ'.Match t u := h htu

/-- All stamps lie before these ticks of the two clocks. -/
def Before (τ : Stamps) (m n : Nat) : Prop :=
  ∀ p ∈ τ.pairs, (∃ k < m, p.1 = .tick k) ∧ ∃ k < n, p.2 = .tick k

theorem Before.mono {τ : Stamps} {m n m' n' : Nat} (h : τ.Before m n) (hm : m ≤ m') (hn : n ≤ n') :
    τ.Before m' n' := by
  intro p hp
  obtain ⟨⟨k, hk, hl⟩, ⟨j, hj, hr⟩⟩ := h p hp
  exact ⟨⟨k, Nat.lt_of_lt_of_le hk hm, hl⟩, ⟨j, Nat.lt_of_lt_of_le hj hn, hr⟩⟩

/-- Adds the pair of these ticks, which are later than all stamps so far. -/
def note (τ : Stamps) {m n : Nat} (h : τ.Before m n) : Stamps where
  pairs := (.tick m, .tick n) :: τ.pairs
  left := by
    refine List.nodup_cons.mpr ⟨fun hmem => ?_, τ.left⟩
    obtain ⟨p, hp, heq⟩ := List.mem_map.mp hmem
    obtain ⟨⟨k, hk, hleft⟩, -⟩ := h p hp
    have hsame : k = m := Timestamp.tick.inj (hleft.symm.trans heq)
    omega
  right := by
    refine List.nodup_cons.mpr ⟨fun hmem => ?_, τ.right⟩
    obtain ⟨p, hp, heq⟩ := List.mem_map.mp hmem
    obtain ⟨-, ⟨k, hk, hright⟩⟩ := h p hp
    have hsame : k = n := Timestamp.tick.inj (hright.symm.trans heq)
    omega

variable {τ : Stamps} {m n : Nat}

theorem le_note (h : τ.Before m n) : τ ≤ τ.note h := List.subset_cons_self _ _

theorem match_note (h : τ.Before m n) : (τ.note h).Match (.tick m) (.tick n) := List.mem_cons_self

theorem before_note (h : τ.Before m n) : (τ.note h).Before (m + 1) (n + 1) := by
  intro p hp
  rcases List.mem_cons.mp hp with rfl | hp
  · exact ⟨⟨m, Nat.lt_succ_self m, rfl⟩, ⟨n, Nat.lt_succ_self n, rfl⟩⟩
  · exact h.mono (Nat.le_succ m) (Nat.le_succ n) p hp

theorem before_empty (m n : Nat) : empty.Before m n := fun _ hp => absurd hp List.not_mem_nil

end Stamps

/-! ## Rows -/

variable (ρ : Equiv.Perm Uuid) (τ : Stamps)

/-- The same file under other ids and other stamps. -/
structure FileRecord.Alike (f g : FileRecord) : Prop where
  id : g.id = ρ f.id
  size : g.size = f.size
  chunkIds : g.chunkIds = f.chunkIds.map ρ
  metadata : g.metadata = f.metadata
  createdAt : τ.Match f.createdAt g.createdAt
  updatedAt : τ.Match f.updatedAt g.updatedAt

/-- The same view of a file under other ids and other stamps. -/
structure FileInfo.Alike (f g : FileInfo) : Prop where
  id : g.id = ρ f.id
  size : g.size = f.size
  metadata : g.metadata = f.metadata
  createdAt : τ.Match f.createdAt g.createdAt
  updatedAt : τ.Match f.updatedAt g.updatedAt

/-- The same chunk under other ids. -/
structure ChunkRecord.Alike (c d : ChunkRecord) : Prop where
  id : d.id = ρ c.id
  fileId : d.fileId = ρ c.fileId
  bytes : d.bytes = c.bytes

/-- **The tables correspond**: the same rows, in the same order, under other ids and other stamps. -/
structure Memory.Tables.Alike (t : Memory.Tables) (r : Sql.Rows) : Prop where
  files : List.Forall₂ (FileRecord.Alike ρ τ) t.files r.files
  chunks : List.Forall₂ (fun c d => c.Alike ρ d.chunk) t.chunks r.chunks

variable {ρ τ}

theorem FileRecord.Alike.info {f g : FileRecord} (h : f.Alike ρ τ g) : f.info.Alike ρ τ g.info :=
  ⟨h.id, h.size, h.metadata, h.createdAt, h.updatedAt⟩

theorem FileInfo.Alike.mono {τ' : Stamps} (hτ : τ ≤ τ') {f g : FileInfo} (h : f.Alike ρ τ g) :
    f.Alike ρ τ' g :=
  { h with createdAt := h.createdAt.mono hτ, updatedAt := h.updatedAt.mono hτ }

theorem FileRecord.Alike.mono {τ' : Stamps} (hτ : τ ≤ τ') {f g : FileRecord} (h : f.Alike ρ τ g) :
    f.Alike ρ τ' g :=
  { h with createdAt := h.createdAt.mono hτ, updatedAt := h.updatedAt.mono hτ }

/-! ### Lists of rows that are alike -/

section Lists

variable {α β : Type} {R : α → β → Prop} {l : List α} {l' : List β}

/-- The same search finds the same. -/
theorem forall₂_find? {p : α → Bool} {q : β → Bool} (h : List.Forall₂ R l l')
    (hpq : ∀ a b, R a b → (p a = true ↔ q b = true)) : Option.Rel R (l.find? p) (l'.find? q) := by
  induction h with
  | nil => exact .none
  | @cons a b l l' hab _ ih =>
    have heq : p a = q b := Bool.eq_iff_iff.mpr (hpq a b hab)
    rw [List.find?_cons, List.find?_cons, ← heq]
    cases p a with
    | true => exact .some hab
    | false => exact ih

/-- The same rows are counted. -/
theorem forall₂_countP {p : α → Bool} {q : β → Bool} (h : List.Forall₂ R l l')
    (hpq : ∀ a b, R a b → (p a = true ↔ q b = true)) : l'.countP q = l.countP p := by
  rw [List.countP_eq_length_filter, List.countP_eq_length_filter]
  exact (List.rel_filter hpq h).length_eq.symm

/-- The keys are the same under other names. -/
theorem forall₂_keys {key : α → Uuid} {key' : β → Uuid} (h : List.Forall₂ R l l')
    (hkey : ∀ a b, R a b → key' b = ρ (key a)) : l'.map key' = (l.map key).map ρ := by
  induction h with
  | nil => rfl
  | cons hab _ ih => rw [List.map_cons, List.map_cons, List.map_cons, ih, hkey _ _ hab]

end Lists

namespace Memory.Tables.Alike

variable {t : Tables} {r : Sql.Rows}

theorem mono {τ' : Stamps} (hτ : τ ≤ τ') (h : t.Alike ρ τ r) : t.Alike ρ τ' r :=
  ⟨h.files.imp fun _ _ hfg => hfg.mono hτ, h.chunks⟩

theorem empty : Tables.empty.Alike ρ τ .empty := ⟨.nil, .nil⟩

/-! ## What is read off the tables -/

theorem fileIds (h : t.Alike ρ τ r) : r.files.map (·.id) = (t.files.map (·.id)).map ρ :=
  forall₂_keys h.files fun _ _ hfg => hfg.id

theorem chunkIds (h : t.Alike ρ τ r) : r.chunks.map (·.chunk.id) = (t.chunks.map (·.id)).map ρ :=
  forall₂_keys h.chunks fun _ _ hcd => hcd.id

theorem mem_fileIds (h : t.Alike ρ τ r) (id : Uuid) :
    ρ id ∈ r.files.map (·.id) ↔ id ∈ t.files.map (·.id) := by
  rw [h.fileIds, List.mem_map_of_injective ρ.injective]

theorem mem_chunkIds (h : t.Alike ρ τ r) (id : Uuid) :
    ρ id ∈ r.chunks.map (·.chunk.id) ↔ id ∈ t.chunks.map (·.id) := by
  rw [h.chunkIds, List.mem_map_of_injective ρ.injective]

/-- The keys of the database are keys in memory. -/
theorem nodup_files (h : t.Alike ρ τ r) : (t.files.map (·.id)).Nodup :=
  .of_map ρ (h.fileIds ▸ r.fileKeys)

theorem hasFile_iff (id : Uuid) : t.hasFile id = true ↔ id ∈ t.files.map (·.id) := by
  rw [Tables.hasFile, List.any_eq_true, List.mem_map]
  exact exists_congr fun f => and_congr_right fun _ => decide_eq_true_iff

/-- One row is touched where there is a file, and none where there is none. -/
theorem countP_files (h : t.Alike ρ τ r) (id : Uuid) :
    r.files.countP (·.id = ρ id) = if t.hasFile id then 1 else 0 := by
  have hrows : r.files.countP (·.id = ρ id) = t.files.countP (·.id = id) :=
    forall₂_countP h.files fun f g hfg => by simp [hfg.id]
  have hcount : t.files.countP (·.id = id) = (t.files.map (·.id)).count id := by
    rw [List.count, List.countP_map]
    exact List.countP_congr fun f _ => by simp
  rw [hrows, hcount, h.nodup_files.count]
  simp only [← hasFile_iff]

/-- As many chunks are touched as the file has. -/
theorem countP_chunks (h : t.Alike ρ τ r) (file : Uuid) :
    r.chunks.countP (·.chunk.fileId = ρ file) = (t.chunksOf file).length := by
  rw [chunksOf, ← List.countP_eq_length_filter]
  exact forall₂_countP h.chunks fun c d hcd => by simp [hcd.fileId]

theorem file? (h : t.Alike ρ τ r) (id : Uuid) :
    Option.Rel (FileRecord.Alike ρ τ) (t.file? id) (r.files.find? (·.id = ρ id)) :=
  forall₂_find? h.files fun f g hfg => by simp [hfg.id]

theorem bytes? (h : t.Alike ρ τ r) (id : Uuid) :
    (r.chunks.find? (·.chunk.id = ρ id)).map (·.chunk.bytes) = (t.chunk? id).map (·.bytes) := by
  have hfound : Option.Rel (fun c d => c.Alike ρ d.chunk) (t.chunk? id) (r.chunks.find? (·.chunk.id = ρ id)) :=
    forall₂_find? h.chunks fun c d hcd => by simp [hcd.id]
  revert hfound
  generalize t.chunk? id = c, r.chunks.find? (·.chunk.id = ρ id) = d
  intro hfound
  cases hfound with
  | none => rfl
  | some hcd => exact congrArg some hcd.bytes

/-! ## Changes -/

theorem insertFile (h : t.Alike ρ τ r) {f g : FileRecord} (hfg : f.Alike ρ τ g)
    (hnew : g.id ∉ r.files.map (·.id)) : (t.insertFile f).Alike ρ τ (r.insertFile g hnew) := by
  have hunused : f.id ∉ t.files.map (·.id) := by rwa [hfg.id, h.mem_fileIds] at hnew
  have hkept : t.files.filter (·.id ≠ f.id) = t.files :=
    List.filter_eq_self.mpr fun f' hf' => decide_eq_true fun heq => hunused (List.mem_map.mpr ⟨f', hf', heq⟩)
  refine ⟨?_, h.chunks⟩
  show List.Forall₂ _ (t.files.filter (·.id ≠ f.id) ++ [f]) (r.files ++ [g])
  rw [hkept]
  exact List.rel_append h.files (.cons hfg .nil)

theorem insertChunk (h : t.Alike ρ τ r) {c : ChunkRecord} {d : Sql.ChunkRow} (hcd : c.Alike ρ d.chunk)
    (hnew : d.chunk.id ∉ r.chunks.map (·.chunk.id)) (howner : d.chunk.fileId ∈ r.files.map (·.id)) :
    (t.insertChunk c).Alike ρ τ (r.insertChunk d hnew howner) := by
  have hunused : c.id ∉ t.chunks.map (·.id) := by rwa [hcd.id, h.mem_chunkIds] at hnew
  have hkept : t.chunks.filter (·.id ≠ c.id) = t.chunks :=
    List.filter_eq_self.mpr fun c' hc' => decide_eq_true fun heq => hunused (List.mem_map.mpr ⟨c', hc', heq⟩)
  refine ⟨h.files, ?_⟩
  show List.Forall₂ _ (t.chunks.filter (·.id ≠ c.id) ++ [c]) (r.chunks ++ [d])
  rw [hkept]
  exact List.rel_append h.chunks (.cons hcd .nil)

/-- The same change of the same file. -/
theorem alterFile (h : t.Alike ρ τ r) (id : Uuid) {change change' : FileRecord → FileRecord}
    (hchange : ∀ f g, f.Alike ρ τ g → (change f).Alike ρ τ { change' g with id := g.id }) :
    (t.alterFile id change).Alike ρ τ (r.updateFile (ρ id) change') := by
  refine ⟨List.rel_map ?_ h.files, h.chunks⟩
  intro f g hfg
  have hid : g.id = ρ id ↔ f.id = id := by rw [hfg.id, ρ.injective.eq_iff]
  show (if f.id = id then change f else f).Alike ρ τ (if g.id = ρ id then _ else g)
  by_cases heq : f.id = id
  · rw [if_pos heq, if_pos (hid.mpr heq)]
    exact hchange f g hfg
  · rw [if_neg heq, if_neg (hid.not.mpr heq)]
    exact hfg

theorem finishFile (h : t.Alike ρ τ r) {now now' : Timestamp} (hnow : τ.Match now now') (id : Uuid) (size : Int)
    (ids : List Uuid) :
    (t.finishFile now id size ids).Alike ρ τ
      (r.updateFile (ρ id) fun f => { f with size := size, chunkIds := ids.map ρ, updatedAt := now' }) :=
  h.alterFile id fun _ _ hfg => ⟨hfg.id, rfl, rfl, hfg.metadata, hfg.createdAt, hnow⟩

theorem setMetadata (h : t.Alike ρ τ r) {now now' : Timestamp} (hnow : τ.Match now now') (id : Uuid)
    (data : Option Bytes) :
    (t.setMetadata now id data).Alike ρ τ
      (r.updateFile (ρ id) fun f => { f with metadata := data, updatedAt := now' }) :=
  h.alterFile id fun _ _ hfg => ⟨hfg.id, hfg.size, hfg.chunkIds, rfl, hfg.createdAt, hnow⟩

/-- An update of a file that is not there touches no row. -/
theorem updateFile_of_no_file (h : t.Alike ρ τ r) {id : Uuid} (hfile : t.hasFile id = false)
    (change : FileRecord → FileRecord) : t.Alike ρ τ (r.updateFile (ρ id) change) := by
  have hnone : ρ id ∉ r.files.map (·.id) := by
    rw [h.mem_fileIds, ← hasFile_iff, hfile]
    exact nofun
  have hkept : (r.updateFile (ρ id) change).files = r.files := by
    refine (List.map_congr_left fun f hf => if_neg ?_).trans (List.map_id' r.files)
    exact fun heq => hnone (List.mem_map.mpr ⟨f, hf, heq⟩)
  exact ⟨hkept ▸ h.files, h.chunks⟩

/-- The chunks of all other files correspond. -/
theorem otherChunks (h : t.Alike ρ τ r) (file : Uuid) :
    List.Forall₂ (fun c d => c.Alike ρ d.chunk) (t.chunks.filter (·.fileId ≠ file))
      (r.chunks.filter (·.chunk.fileId ≠ ρ file)) := by
  refine List.rel_filter (fun c d hcd => ?_) h.chunks
  simp [hcd.fileId]

theorem deleteChunks (h : t.Alike ρ τ r) (file : Uuid) :
    (t.deleteChunks file).Alike ρ τ (r.deleteChunks (ρ file)) :=
  ⟨h.files, h.otherChunks file⟩

theorem deleteFile (h : t.Alike ρ τ r) (id : Uuid) : (t.deleteFile id).Alike ρ τ (r.deleteFile (ρ id)) := by
  refine ⟨List.rel_filter (fun f g hfg => ?_) h.files, h.otherChunks id⟩
  simp [hfg.id]

end Memory.Tables.Alike
end ChunkVault
