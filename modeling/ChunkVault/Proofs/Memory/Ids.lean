/-
# ChunkVault.Proofs.Memory.Ids -- every id is in use in one place

The ids of a store turn up in its rows and in the writes that wait in its transactions. `Unmixed` says that
each of them was issued by the store and is in use in one of these places only. Every call keeps that
(`Made.unmixed`), whoever makes it and however it ends, as long as the store has not run out of ids. So an
upload that is committed late meets no row of its ids, however many others were committed in between.
-/
import ChunkVault.Proofs.Memory.Publication

namespace ChunkVault.Memory

/-! ## The ids of rows -/

/-- The ids of all rows. -/
def Tables.rowIds (t : Tables) : List Uuid := t.files.map (·.id) ++ t.chunks.map (·.id)

theorem Tables.unused_of_rowIds {t : Tables} {ids : List Uuid} (h : ∀ id ∈ ids, id ∉ t.rowIds) :
    t.Unused ids :=
  ⟨fun _ hf hmem => h _ hmem (List.mem_append_left _ (List.mem_map_of_mem hf)),
    fun _ hc hmem => h _ hmem (List.mem_append_right _ (List.mem_map_of_mem hc))⟩

theorem Tables.alterFile_rowIds (t : Tables) (id : Uuid) {change : FileRecord → FileRecord}
    (hchange : ∀ f, (change f).id = f.id) : (t.alterFile id change).rowIds = t.rowIds := by
  rw [Tables.rowIds, t.alterFile_ids id hchange]
  rfl

/-- A write adds the id of the row that it inserts, if it inserts one, and no other. -/
theorem rowIds_apply {now : Timestamp} {t : Tables} {w : Write} {id : Uuid}
    (h : id ∈ (w.apply now t).rowIds) : id ∈ t.rowIds ∨ w.newId? = some id := by
  have hfilter : ∀ {α : Type} (p : α → Bool) (l : List α) (f : α → Uuid),
      id ∈ (l.filter p).map f → id ∈ l.map f := fun p l f hmem =>
    (List.filter_sublist.map f).subset hmem
  cases w with
  | insertFile f =>
    rcases List.mem_append.mp h with h | h
    · rw [show (Write.apply now t (.insertFile f)).files = t.files.filter (·.id ≠ f.id) ++ [f] from rfl,
        List.map_append] at h
      rcases List.mem_append.mp h with h | h
      · exact .inl (List.mem_append_left _ (hfilter _ _ _ h))
      · exact .inr (congrArg some (List.mem_singleton.mp h).symm)
    · exact .inl (List.mem_append_right _ h)
  | insertChunk c =>
    rcases List.mem_append.mp h with h | h
    · exact .inl (List.mem_append_left _ h)
    · rw [show (Write.apply now t (.insertChunk c)).chunks = t.chunks.filter (·.id ≠ c.id) ++ [c] from rfl,
        List.map_append] at h
      rcases List.mem_append.mp h with h | h
      · exact .inl (List.mem_append_right _ (hfilter _ _ _ h))
      · exact .inr (congrArg some (List.mem_singleton.mp h).symm)
  | finishFile file size ids =>
    have hsame : (Write.apply now t (.finishFile file size ids)).rowIds = t.rowIds :=
      t.alterFile_rowIds file fun _ => rfl
    rw [hsame] at h
    exact .inl h
  | deleteChunks file =>
    rcases List.mem_append.mp h with h | h
    · exact .inl (List.mem_append_left _ h)
    · exact .inl (List.mem_append_right _ (hfilter _ _ _ h))
  | deleteFile file =>
    rcases List.mem_append.mp h with h | h
    · exact .inl (List.mem_append_left _ (hfilter _ _ _ h))
    · exact .inl (List.mem_append_right _ (hfilter _ _ _ h))

theorem rowIds_apply_all {now : Timestamp} {ws : List Write} {t : Tables} {id : Uuid}
    (h : id ∈ (ws.foldl (Write.apply now) t).rowIds) : id ∈ t.rowIds ∨ id ∈ newIds ws := by
  induction ws generalizing t with
  | nil => exact .inl h
  | cons w ws ih =>
    rcases ih h with h | h
    · rcases rowIds_apply h with h | h
      · exact .inl h
      · exact .inr (List.mem_filterMap.mpr ⟨w, List.mem_cons_self, h⟩)
    · refine .inr ?_
      obtain ⟨v, hv, hid⟩ := List.mem_filterMap.mp h
      exact List.mem_filterMap.mpr ⟨v, List.mem_cons_of_mem w hv, hid⟩

namespace Store

/-! ## What a call does to rows and to what waits -/

variable {lost : Request → Prop} {c : CallRecord} {s s' : Store}

/-- What waits in a transaction after a call: what waited before, nothing, or more, if the call was made to
write to it. The ids of what is new are those that the store has issued meanwhile. -/
theorem Made.waiting_cases (h : Made lost c s s') (n : TxId) :
    s'.waiting n = s.waiting n ∨ s'.waiting n = [] ∨
      c.request.writesTo? = some n ∧ ∃ more, s'.waiting n = s.waiting n ++ more ∧
        newIds more = issuedBetween s.issued s'.issued := by
  by_cases hwithin : c.request.within? = some n
  · cases hwrites : c.request.writesTo? with
    | some tx =>
      rw [Request.within?, hwrites] at hwithin
      obtain rfl := Option.some.inj hwithin
      by_cases hopen : s.isOpen tx = true
      · obtain ⟨more, hadds⟩ := h.adds hwrites hopen
        exact .inr (.inr ⟨rfl, more, hadds.waiting, hadds.ids⟩)
      · -- nothing is written to a transaction that is not open
        refine .inr (.inl (waiting_of_not_isOpen ?_))
        rw [Bool.eq_false_iff]
        intro hopen'
        rcases h.frame.opened tx hopen' with hopen' | hbegin
        · exact hopen hopen'
        · rw [hbegin] at hwrites
          cases hwrites
    | none =>
      rw [Request.within?, hwrites] at hwithin
      rcases h.waiting_closed hwithin with hempty | rfl
      · exact .inr (.inl hempty)
      · exact .inl rfl
  · rcases h.frame.others n hwithin with hsame | hempty
    · exact .inl (congrArg Transaction.writes hsame)
    · exact .inr (.inl (congrArg Transaction.writes hempty))

/-- What the rows are after a call: what they were, or what a commit or new metadata makes of them. -/
theorem Made.tables_cases (h : Made lost c s s') :
    s'.tables = s.tables ∨
      (∃ tx now, c.request = .commit tx ∧ s'.waiting tx = [] ∧
        s'.tables = (s.waiting tx).foldl (Write.apply now) s.tables) ∨
      ∃ id data now, c.request = .updateMetadata id data ∧
        s'.tables = s.tables.setMetadata now id data := by
  by_cases hpublishes : c.request.publishes = false
  · exact .inl (h.frame.tables hpublishes)
  · obtain ⟨q, outcome⟩ := c
    cases q with
    | commit tx =>
      have hdiscard : (s.discard tx).waiting tx = [] := by rw [waiting_discard, if_pos rfl]
      rcases h.cases with rfl | rfl | rfl
      · exact .inl rfl
      · rcases serve_commit_cases s tx with ⟨-, e, hserve⟩ | ⟨-, hserve⟩
        · rw [hserve]
          exact .inl rfl
        · rw [hserve]
          exact .inr (.inl ⟨tx, s.now, rfl, hdiscard, rfl⟩)
      · exact .inl rfl
    | updateMetadata id data =>
      rcases h.cases with rfl | rfl | rfl
      · exact .inl rfl
      · rcases serve_updateMetadata_cases s id data with ⟨-, hserve⟩ | ⟨-, hserve⟩
        · rw [hserve]
          exact .inr (.inr ⟨id, data, s.now, rfl, rfl⟩)
        · rw [hserve]
          exact .inl rfl
      · exact .inl rfl
    | _ => exact absurd rfl hpublishes

/-! ## One place for each id -/

/-- The store has issued this id. -/
def HasIssued (s : Store) (id : Uuid) : Prop := ∃ n < s.issued, Uuid.issue n = id

/-- Every id was issued by the store and is in use in one place only: in a row, or in one of the writes
that wait in one of the transactions. -/
structure Unmixed (s : Store) : Prop where
  rows : ∀ id ∈ s.tables.rowIds, s.HasIssued id
  issued : ∀ tx, ∀ id ∈ newIds (s.waiting tx), s.HasIssued id
  nodup : ∀ tx, (newIds (s.waiting tx)).Nodup
  unused : ∀ tx, ∀ id ∈ newIds (s.waiting tx), id ∉ s.tables.rowIds
  apart : ∀ tx tx', tx ≠ tx' → ∀ id ∈ newIds (s.waiting tx), id ∉ newIds (s.waiting tx')

theorem Unmixed.empty : Store.empty.Unmixed where
  rows _ h := absurd h List.not_mem_nil
  issued _ _ h := absurd h List.not_mem_nil
  nodup _ := List.nodup_nil
  unused _ _ h := absurd h List.not_mem_nil
  apart _ _ _ _ h := absurd h List.not_mem_nil

theorem HasIssued.mono (h : s.issued ≤ s'.issued) {id : Uuid} (hid : s.HasIssued id) :
    s'.HasIssued id := by
  obtain ⟨n, hn, rfl⟩ := hid
  exact ⟨n, Nat.lt_of_lt_of_le hn h, rfl⟩

theorem hasIssued_of_mem {id : Uuid} (h : id ∈ issuedBetween s.issued s'.issued) : s'.HasIssued id := by
  obtain ⟨n, hn, rfl⟩ := List.mem_map.mp h
  rw [List.mem_range'_1] at hn
  exact ⟨n, by omega, rfl⟩

/-- An id that is issued now was not issued before, unless the ids have run out. -/
theorem not_hasIssued {n : Nat} (hn : n ≤ Uuid.issueCount) {id : Uuid}
    (h : id ∈ issuedBetween s.issued n) : ¬s.HasIssued id := by
  obtain ⟨j, hj, rfl⟩ := List.mem_map.mp h
  rw [List.mem_range'_1] at hj
  rintro ⟨i, hi, heq⟩
  have hij : i = j := issue_inj (by omega) (by omega) heq
  omega

/-- An id that waits has waited before, or is new and waits where the call writes to. -/
theorem Made.waited_or_new (h : Made lost c s s') {tx : TxId} {id : Uuid}
    (hid : id ∈ newIds (s'.waiting tx)) : id ∈ newIds (s.waiting tx) ∨
      c.request.writesTo? = some tx ∧ id ∈ issuedBetween s.issued s'.issued := by
  rcases h.waiting_cases tx with hsame | hempty | ⟨hwrites, more, hmore, hnew⟩
  · rw [hsame] at hid
    exact .inl hid
  · rw [hempty] at hid
    exact absurd hid List.not_mem_nil
  · rw [hmore, newIds_append, hnew] at hid
    exact (List.mem_append.mp hid).imp_right fun hid => ⟨hwrites, hid⟩

/-- **Every call keeps each id in its place.** -/
theorem Made.unmixed (h : Made lost c s s') (hs : s.Unmixed) (hids : s'.issued ≤ Uuid.issueCount) :
    s'.Unmixed := by
  have hle : s.issued ≤ s'.issued := h.frame.issued
  have hwaits := fun tx id hid => @Made.waited_or_new lost c s s' h tx id hid
  -- an id of a row was one before, or has waited in a transaction where nothing waits any more
  have hrows : ∀ id ∈ s'.tables.rowIds, id ∈ s.tables.rowIds ∨
      ∃ tx, s'.waiting tx = [] ∧ id ∈ newIds (s.waiting tx) := by
    intro id hid
    rcases h.tables_cases with hsame | ⟨tx, now, -, hempty, happly⟩ | ⟨file, data, now, -, hdata⟩
    · rw [hsame] at hid
      exact .inl hid
    · rw [happly] at hid
      exact (rowIds_apply_all hid).imp_right fun hid => ⟨tx, hempty, hid⟩
    · have hsame : (s.tables.setMetadata now file data).rowIds = s.tables.rowIds :=
        s.tables.alterFile_rowIds file fun _ => rfl
      rw [hdata, hsame] at hid
      exact .inl hid
  refine ⟨?_, ?_, ?_, ?_, ?_⟩
  · intro id hid
    rcases hrows id hid with hid | ⟨tx, -, hid⟩
    · exact (hs.rows id hid).mono hle
    · exact (hs.issued tx id hid).mono hle
  · intro tx id hid
    rcases hwaits tx id hid with hid | ⟨-, hid⟩
    · exact (hs.issued tx id hid).mono hle
    · exact hasIssued_of_mem hid
  · intro tx
    rcases h.waiting_cases tx with hsame | hempty | ⟨-, more, hmore, hnew⟩
    · rw [hsame]
      exact hs.nodup tx
    · rw [hempty]
      exact List.nodup_nil
    · -- what was issued before is none of what is issued now
      rw [hmore, newIds_append, hnew, List.nodup_append]
      refine ⟨hs.nodup tx, nodup_issuedBetween (by omega), ?_⟩
      rintro id hid _ hid' rfl
      exact not_hasIssued hids hid' (hs.issued tx id hid)
  · intro tx id hid hrow
    rcases hwaits tx id hid with hold | ⟨-, hnew⟩
    · rcases hrows id hrow with hrow | ⟨tx', hempty, hwaited⟩
      · exact hs.unused tx id hold hrow
      · by_cases heq : tx = tx'
        · rw [heq, hempty] at hid
          exact List.not_mem_nil hid
        · exact hs.apart tx tx' heq id hold hwaited
    · rcases hrows id hrow with hrow | ⟨tx', -, hwaited⟩
      · exact not_hasIssued hids hnew (hs.rows id hrow)
      · exact not_hasIssued hids hnew (hs.issued tx' id hwaited)
  · intro tx tx' hne id hid hid'
    rcases hwaits tx id hid with hold | ⟨hwrites, hnew⟩
    · rcases hwaits tx' id hid' with hold' | ⟨-, hnew'⟩
      · exact hs.apart tx tx' hne id hold hold'
      · exact not_hasIssued hids hnew' (hs.issued tx id hold)
    · rcases hwaits tx' id hid' with hold' | ⟨hwrites', -⟩
      · exact not_hasIssued hids hnew (hs.issued tx' id hold')
      · rw [hwrites] at hwrites'
        exact hne (Option.some.inj hwrites')

/-! ## Ids that are used up -/

/-- An id that was issued and waits nowhere. No row of this id will be brought any more. -/
structure Spent (s : Store) (id : Uuid) : Prop where
  issued : s.HasIssued id
  waits : ∀ tx, id ∉ newIds (s.waiting tx)

theorem Made.spent (h : Made lost c s s') (hids : s'.issued ≤ Uuid.issueCount) {id : Uuid}
    (hid : s.Spent id) : s'.Spent id where
  issued := hid.issued.mono h.frame.issued
  waits tx hwaits := by
    rcases h.waited_or_new hwaits with hold | ⟨-, hnew⟩
    · exact hid.waits tx hold
    · exact not_hasIssued hids hnew hid.issued

/-- The ids of a transaction in which nothing waits any more are used up. -/
theorem Made.spent_of_closed (h : Made lost c s s') (hids : s'.issued ≤ Uuid.issueCount) (hs : s.Unmixed)
    {tx : TxId} (hempty : s'.waiting tx = []) {id : Uuid} (hid : id ∈ newIds (s.waiting tx)) :
    s'.Spent id where
  issued := (hs.issued tx id hid).mono h.frame.issued
  waits tx' hwaits := by
    by_cases heq : tx = tx'
    · rw [← heq, hempty] at hwaits
      exact List.not_mem_nil hwaits
    · rcases h.waited_or_new hwaits with hold | ⟨-, hnew⟩
      · exact hs.apart tx tx' heq id hid hold
      · exact not_hasIssued hids hnew (hs.issued tx id hid)

end Store
end ChunkVault.Memory
