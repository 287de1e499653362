/-
# ChunkVault.Proofs.Memory.Session -- requests one after another are answered from a map

Clients send requests for files to a server over an empty store, one after another, whatever ids they name;
nothing fails, and nobody shuts the server down. They are answered as from a map of ids to contents and
metadata, which `Catalog` keeps together with the ids that uploads were given: `Catalog.Replies` says what each
request brings, letter for letter, and makes of the map, and touches no entry but that of the file.

Each request is one operation of the engine, and the operations are steps of the map already (`After.performed`).
What is added here is that the responses tell what the operations answer; and where a body is content that is
fetched while it is sent, the fetches find it (`After.looked`).
-/
import ChunkVault.Proofs.Http.Handlers
import ChunkVault.Proofs.Http.Wording
import ChunkVault.Proofs.Memory.Downloading
import ChunkVault.Proofs.Memory.Simulation

namespace ChunkVault

open Program Memory

/-! ## What clients know -/

namespace Memory

/-- A map of ids to contents and metadata, with the ids that uploads were given. -/
structure Catalog where
  entries : Vault
  given : List Uuid

namespace Catalog

/-- Nothing yet. -/
def empty : Catalog := ⟨fun _ => none, []⟩

/-- Another entry for one id. -/
def set (c : Catalog) (id : Uuid) (entry : Option Entry) : Catalog :=
  { c with entries := Function.update c.entries id entry }

/-- A new entry, for an id that an upload is given. -/
def give (c : Catalog) (id : Uuid) (content : Bytes) : Catalog :=
  { c.set id (some ⟨content, none⟩) with given := id :: c.given }

open Http

/-- What a request brings its client, and makes of the map. -/
inductive Replies (c : Catalog) (r : Http.Request) : Action → Reply → Catalog → Prop
  /-- A text that is no id is refused, and the store is not called. -/
  | refused {a : Action} {raw : String} {x : Reply} (hraw : a.raw? = some raw) (hname : pathId? raw = none)
      (hstatus : x.response.status = 400) (hnoted : x.noted = []) : Replies c r a x c
  /-- What is sent in a body is kept under an id that no upload was given before. -/
  | uploaded {body : Source} {id : Uuid} {x : Reply} (hend : bodyEnd body = .ended) (hgiven : id ∉ c.given)
      (hnew : c.entries id = none) (htold : x.Tells r 201 (idWording id)) :
      Replies c r (.upload body) x (c.give id (bodyContent body))
  /-- Of a body that fails nothing is kept. -/
  | failed {body : Source} {err : IoError} {x : Reply} (hend : bodyEnd body = .failed err)
      (htold : x.Tells r 500 (errorWording "Internal Server Error")) : Replies c r (.upload body) x c
  | downloaded {raw : String} {id : Uuid} {entry : Entry} {x : Reply} (hname : pathId? raw = some id)
      (hentry : c.entries id = some entry)
      (hsent : Sent x.response x.got 200 entry.content.length none entry.content) :
      Replies c r (.download raw) x c
  /-- Only the moments at which the file was made and changed are not in the map. -/
  | described {raw : String} {id : Uuid} {entry : Entry} {x : Reply} {made changed : Timestamp}
      (hname : pathId? raw = some id) (hentry : c.entries id = some entry)
      (htold : x.Tells r 200 (infoWording id entry.content.length entry.metadata made changed)) :
      Replies c r (.describe raw) x c
  | annotated {raw : String} {data : Bytes} {id : Uuid} {entry : Entry} {x : Reply} (hname : pathId? raw = some id)
      (hentry : c.entries id = some entry) (hdone : x.Confirms r) :
      Replies c r (.annotate raw data) x (c.set id (some { entry with metadata := some data }))
  /-- It makes no difference to the client if there is no such file. -/
  | removed {raw : String} {id : Uuid} {x : Reply} (hname : pathId? raw = some id) (hdone : x.Confirms r) :
      Replies c r (.remove raw) x (c.set id none)
  /-- All else needs a file. -/
  | missing {a : Action} {raw : String} {id : Uuid} {x : Reply} (hraw : a.raw? = some raw) (ha : a ≠ .remove raw)
      (hname : pathId? raw = some id) (hentry : c.entries id = none)
      (htold : x.Tells r 404 (errorWording "not found")) : Replies c r a x c

/-- What several requests bring their clients one after another, and make of the map. -/
inductive Session : Catalog → List (Http.Request × Reply) → Catalog → Prop
  | nil (c : Catalog) : Session c [] c
  | cons {c c₁ c₂ : Catalog} {r : Http.Request} {a : Action} {x : Reply} {xs : List (Http.Request × Reply)}
      (hwants : r.Wants a) (h : c.Replies r a x c₁) (hs : Session c₁ xs c₂) : Session c ((r, x) :: xs) c₂

/-- The map is that of the tables, and the ids that were given out were brought by uploads. -/
structure Mirrors (c : Catalog) (s : Store) (ds : List Decision) : Prop where
  entries : c.entries = s.tables.vault
  given : ∀ id ∈ c.given, id ∈ broughtIds ds

end Catalog
end Memory

/-! ## Readers with a token of their own -/

namespace Reader

variable {r : Reader}

theorem deliver_token (r : Reader) (chunk : Bytes) (room : Nat) : (r.deliver chunk room).2.token = r.token := by
  unfold deliver
  simp only
  split
  · rfl
  · split <;> rfl

theorem fetch_own (id : Uuid) : (fetch .own id).Asks Query.Own := by
  refine ⟨rfl, fun race => ?_⟩
  cases race with
  | refused => exact trivial
  | abandoned => exact ⟨trivial, fun _ => trivial⟩
  | finished o => exact ⟨trivial, fun _ => trivial⟩

/-- A read asks for no token but that of the reader, which keeps it. -/
theorem read_own (h : r.token = .own) (room : Nat) :
    (r.read room).Asks Query.Own ∧ ∀ es x, (r.read room).Ends es x → x.2.token = .own := by
  -- a read that fetches nothing is done at once
  have hdone : ∀ x : Except StorageError ReadOutcome × Reader, x.2.token = r.token →
      (done x).Asks Query.Own ∧ ∀ es y, (done x).Ends es y → y.2.token = .own :=
    fun x hx => ⟨trivial, fun _ _ hy => hy.2 ▸ hx.trans h⟩
  unfold Reader.read
  split
  · exact hdone _ rfl
  split
  · exact hdone _ rfl
  split
  · exact hdone _ rfl
  split
  · exact hdone _ (r.deliver_token _ room)
  unfold fetchAndDeliver
  split
  · exact hdone _ rfl
  rw [h]
  refine ⟨(fetch_own _).bind fun o => ?_, fun es x hends => ?_⟩
  · split <;> exact trivial
  · obtain ⟨_, _, o, rfl, -, hends⟩ := ends_bind.mp hends
    split at hends
    · exact hends.2 ▸ h
    · exact hends.2 ▸ h
    · exact hends.2 ▸ deliver_token _ _ room

theorem Stream.next_own {s : Stream} (h : s.reader.token = .own) :
    s.next.Asks Query.Own ∧ ∀ es content rest, s.next.Ends es (.piece content rest) → rest.reader.token = .own := by
  obtain ⟨hasks, hkeeps⟩ := read_own h s.room
  refine ⟨asks_of_read hasks, fun es content rest hends => ?_⟩
  generalize hitem : Item.piece content rest = item at hends
  cases nextRun_of_ends hends with
  | spent _ => cases hitem
  | piece _ hread =>
    obtain ⟨rfl, rfl⟩ := Item.piece.inj hitem
    exact hkeeps _ _ hread
  | failed _ _ => split at hitem <;> cases hitem

theorem Stream.collectWithin_own (pieces seen : Nat) {s : Stream} (h : s.reader.token = .own) :
    (Stream.collectWithin (fun _ => .done ()) pieces seen s).Asks Query.Own := by
  induction pieces generalizing seen s with
  | zero => exact trivial
  | succ pieces ih =>
    obtain ⟨hasks, hkeeps⟩ := next_own h
    refine hasks.bind_of_ends fun es item hends => ?_
    cases item with
    | last => exact trivial
    | broken e => exact trivial
    | piece content rest => exact (ih (seen + 1) (hkeeps es content rest hends)).bind fun _ => trivial

end Reader

/-! ## Looking -/

namespace Memory

/-- A query that only looks is answered without a change, but for the number of fetches. -/
theorem Store.Served.refetched {q : Query} {s s' : Store} {n : Nat} {a : q.Answer}
    (h : Store.Served q { s with fetches := n } a s') (hq : q.Looks) : ∃ m, s' = { s with fetches := m } := by
  cases q with
  | race token q =>
    obtain ⟨-, rfl⟩ := h
    cases q with
    | findChunk id => exact ⟨n + 1, by rw [Store.serve_findChunk]⟩
    | findFile id => exact ⟨n, rfl⟩
    | _ => cases hq
  | count method failed => exact ⟨n, h⟩
  | _ => cases hq

/-- **A file that is there has its chunks**, and they are the pieces of its content. -/
theorem Tables.Intact.held {t : Tables} (ht : t.untimed.Intact) {id : Uuid} {f : FileRecord}
    (hf : t.file? id = some f) :
    ∃ rows, RowsOf id (pieces (t.content f)) rows ∧ t.untimed.Held id rows ∧ f.chunkIds = rows.map (·.id) ∧
      f.size = (t.content f).length := by
  obtain ⟨hmem, rfl⟩ := file?_some hf
  have hmem : f.untimed ∈ t.untimed.files := List.mem_map_of_mem hmem
  obtain ⟨rows, hlists⟩ := ht.lists f.untimed hmem
  have hchunkIds : f.chunkIds = rows.map (·.id) := hlists.chunkIds
  have hchunk : ∀ d ∈ rows, t.untimed.chunk? d.id = some d := fun d hd => ht.chunk? (hlists.stored d hd)
  have hcontent : t.content f = (rows.map (·.bytes)).flatten := by
    rw [← List.flatMap_def]
    exact content_eq_flatMap (t := t.untimed) hchunkIds hchunk
  have hlaidOut : LaidOut ((rows.map (·.bytes)).map List.length) := by
    rw [List.map_map]
    exact hlists.laidOut
  have hsize : f.untimed.size = (t.untimed.content f.untimed).length := ht.size_eq hmem
  refine ⟨rows, ⟨hlists.owner, ?_⟩, ⟨⟨f.metadata, ?_⟩, hchunk, fun d hd hid => ?_⟩, hchunkIds, hsize⟩
  · rw [hcontent, pieces_flatten hlaidOut]
  · have huntimed : t.untimed.file? f.id = some f.untimed := by
      rw [Tables.untimed_file?, hf]
      rfl
    have hsize : f.size = totalSize rows := hlists.size
    rw [huntimed, FileRecord.untimed, hsize, hchunkIds]
    rfl
  · -- a chunk of one of these ids is one of these chunks
    obtain ⟨e, he, heq⟩ := List.mem_map.mp hid
    obtain rfl : e = d := List.inj_on_of_nodup_map ht.chunks (hlists.stored e he) hd heq
    exact hlists.owner e he

end Memory

namespace Bench

/-- Answers a request, to the end of the body. The server is not shut down: nobody holds its token. -/
def exchange (b : Bench) (r : Http.Request) : Http.Reply × Bench :=
  let (x, b') := b.run (Http.receive .own r)
  (⟨x.1, x.2, b'.journal.take (b'.journal.length - b.journal.length)⟩, b')

/-- Answers requests one after another. -/
def session (b : Bench) : List Http.Request → List (Http.Request × Http.Reply) × Bench
  | [] => ([], b)
  | r :: rs =>
    let (x, b₁) := b.exchange r
    let (xs, b₂) := b₁.session rs
    ((r, x) :: xs, b₂)

/-! ## Operations on a quiet bench -/

/-- A quiet bench where these operations were decided, one after another. -/
structure After (b : Bench) (s : Store) (ds : List Decision) : Prop where
  quiet : b.Quiet s
  linear : ∃ ts, System.Linear .empty ds ⟨s, ts⟩
  apart : s.issued ≤ Uuid.issueCount → System.Apart .empty ds s

variable {b : Bench} {s : Store} {ds : List Decision}

theorem After.new : (Bench.new (.memory .empty)).After .empty [] where
  quiet := ⟨rfl, rfl, rfl⟩
  linear := ⟨[], .init rfl⟩
  apart _ := .init Store.Agrees.empty.unmixed

theorem After.intact (h : b.After s ds) (hids : s.issued ≤ Uuid.issueCount) : s.tables.untimed.Intact := by
  obtain ⟨ts, hlinear⟩ := h.linear
  exact hlinear.decided.intact (h.apart hids).fresh Tables.Intact.empty

theorem After.fire (h : b.After s ds) (names : List String) :
    ∃ b', b.run (Program.fire names) = ((), b') ∧ b'.After s ds := by
  obtain ⟨b', hrun, hquiet⟩ := run_fire_quiet h.quiet names
  exact ⟨b', hrun, hquiet, h.linear, h.apart⟩

/-- **An operation is a step of the map**, and an id that comes to stand for something was not brought before. -/
theorem After.performed (h : b.After s ds) {op : Operation} (hown : op.OwnToken) :
    ∃ s' d, (b.run op.program).2.After s' (ds ++ [d]) ∧ s.issued ≤ s'.issued ∧
      (s'.issued ≤ Uuid.issueCount → s.tables.vault.Step op (b.run op.program).1 s'.tables.vault ∧
        ∀ id, s.tables.vault id = none → s'.tables.vault id ≠ none →
          id ∉ broughtIds ds ∧ id ∈ broughtIds (ds ++ [d])) := by
  obtain ⟨ts, hlinear⟩ := h.linear
  obtain ⟨es, s', hends, hquiet, halong⟩ := run_served h.quiet (Operation.asks_own hown)
  obtain ⟨order, horder, hrun⟩ := System.Run.performed ts hends halong
  obtain ⟨change, hlinear', hapart'⟩ := hlinear.performed hrun horder
  have hissued : s.issued ≤ s'.issued := hrun.issued_le
  have hapart : s'.issued ≤ Uuid.issueCount → System.Apart .empty _ s' := fun hids =>
    hapart' hids (h.apart (Nat.le_trans hissued hids))
  refine ⟨s', _, ⟨hquiet, ⟨_, hlinear'⟩, hapart⟩, hissued, fun hids => ?_⟩
  have hfresh := (hapart hids).fresh
  obtain ⟨hdecides, htables⟩ := hlinear.last_decided hlinear'
  have hdecides : Decides s.tables.untimed op ((b.run op.program).1.map op.untimed) change := hdecides
  have hnodup := hfresh.change (List.mem_append_right ds (List.mem_singleton.mpr rfl))
  have hunused : ∀ i ∈ change.newIds, i ∉ s.tables.untimed.rowIds := fun i hi =>
    (hfresh.rest hlinear.decided).unused i (List.mem_flatMap.mpr ⟨_, List.mem_cons_self, hi⟩)
  have hintact := h.intact (Nat.le_trans hissued hids)
  have hvault : s'.tables.vault = change.onVault s.tables.vault := by
    rw [← vault_untimed, ← vault_untimed s.tables, ← vault_apply hintact hnodup hunused, ← htables]
  refine ⟨?_, fun id hnone hsome => ?_⟩
  · rw [hvault, ← vault_untimed s.tables]
    exact hdecides.vaultStep hintact hunused
  · -- the id is one that the operation has brought
    have hnew : id ∈ change.newIds := by
      by_contra hold
      obtain ⟨entry, hentry⟩ := Option.ne_none_iff_exists'.mp hsome
      rw [hvault] at hentry
      obtain ⟨old, hold, -⟩ := content_onVault hold hentry
      rw [hnone] at hold
      cases hold
    have hall := hfresh.nodup
    rw [broughtIds_concat, List.nodup_append] at hall
    rw [broughtIds_concat]
    exact ⟨fun hbefore => hall.2.2 id hbefore id hnew rfl, List.mem_append_right _ hnew⟩

/-- **What only looks leaves everything as it was** but the number of fetches. -/
theorem After.looked {α : Type} (h : b.After s ds) {p : Program α} (hown : p.Asks Query.Own)
    (hlooks : p.Asks Query.Looks) :
    ∃ es n, p.Ends es (b.run p).1 ∧ (b.run p).2.After { s with fetches := n } ds ∧
      Along Store.Served s es { s with fetches := n } := by
  obtain ⟨ts, hlinear⟩ := h.linear
  obtain ⟨es, s', hends, hquiet, halong⟩ := run_served h.quiet hown
  obtain ⟨-, n, rfl⟩ := halong.exchanges (P := fun _ => True) (I := fun w => ∃ n, w = { s with fetches := n })
    (fun q w a w' hq hserved => by
      rintro ⟨n, rfl⟩
      exact ⟨trivial, hserved.refetched hq⟩)
    (hlooks.queries hends) ⟨s.fetches, rfl⟩
  refine ⟨es, n, hends, ⟨hquiet, ⟨ts, hlinear.refetched n⟩, fun hids => ?_⟩, halong⟩
  obtain ⟨⟨hrows, hissued, hnodup, hunused, hapart⟩, hfresh, hspent⟩ := h.apart hids
  exact ⟨⟨hrows, hissued, hnodup, hunused, hapart⟩, hfresh,
    fun id hid => ⟨(hspent id hid).issued, (hspent id hid).waits⟩⟩

/-- Opening a file finds the row that is there. -/
theorem After.opened (h : b.After s ds) (id : Uuid) :
    ∃ b' n, b.run (Storage.open .own id) = (opened .own (.ok (s.tables.file? id)), b') ∧
      b'.After { s with fetches := n } ds := by
  obtain ⟨es, n, hends, hafter, halong⟩ := h.looked (open_asks_only (Q := Query.Own) rfl fun _ => trivial)
    (@open_asks_only Query.Looks .own id trivial fun _ => trivial)
  obtain ⟨race, rfl, hresult⟩ := open_ends.mp hends
  obtain ⟨s₁, ⟨rfl, -⟩, -⟩ := along_cons.mp halong
  exact ⟨_, n, Prod.ext hresult rfl, hafter⟩

/-! ## Requests -/

open Http Catalog

/-- A request is answered: its reply is the one that the map has for it, and the map that comes of it is that of
the store again. -/
def Follows (s : Store) (ds : List Decision) (r : Http.Request) (a : Action) (y : Reply × Bench) : Prop :=
  ∃ s' more, y.2.After s' (ds ++ more) ∧ s.issued ≤ s'.issued ∧
    (s'.issued ≤ Uuid.issueCount → ∀ c : Catalog, c.Mirrors s ds →
      ∃ c', c.Replies r a y.1 c' ∧ c'.Mirrors s' (ds ++ more))

section Requests

variable {b₁ : Bench} {r : Http.Request} {file : Uuid}

/-- A response is made from what was answered before it, and its body comes afterwards. -/
theorem exchange_of_deliver {h : Handled} (hrun : b.run (receive .own r) = b₁.run (deliver r h)) :
    (b.exchange r).1.response = h.response.withHeaders (Cors.headers r) ∧
      (b.exchange r).1.got = (b₁.run h.response.body.receive).1 ∧
      (b.exchange r).2 = (b₁.run h.response.body.receive).2 := by
  have hdeliver : b₁.run (deliver r h) =
      ((h.response.withHeaders (Cors.headers r), (b₁.run h.response.body.receive).1),
        (b₁.run h.response.body.receive).2) := run_bind rfl _
  unfold exchange
  rw [hrun, hdeliver]
  exact ⟨rfl, rfl, rfl⟩

theorem exchange_received {h : Handled} (hrun : b.run (receive .own r) = b₁.run (deliver r h)) :
    (b.exchange r).1.Received := by
  obtain ⟨hresponse, hgot, -⟩ := exchange_of_deliver hrun
  intro text htext
  have hbody : h.response.body = .text text := by
    rw [hresponse] at htext
    exact htext
  rw [hgot, hbody]
  rfl

/-- **A step of the map is what the client is told**, unless content is sent. An id that comes to stand for
something is one that was not given out before. -/
theorem replies_of_step {c : Catalog} {a : Action} {x : Reply} {m : Vault}
    {o : Except StorageError (a.operation .own file).Value} (ha : ∀ raw, a ≠ .download raw)
    (hname : ∀ raw, a.raw? = some raw → pathId? raw = some file)
    (hstep : c.entries.Step (a.operation .own file) o m)
    (hnew : ∀ id, c.entries id = none → m id ≠ none → id ∉ c.given)
    (hresponse : x.response = (a.handled r .own file o).response.withHeaders (Cors.headers r))
    (hgot : x.Received) :
    ∃ c', c.Replies r a x c' ∧ c'.entries = m ∧
      ∀ id ∈ c'.given, id ∈ c.given ∨ c.entries id = none ∧ m id ≠ none := by
  cases a with
  | upload body =>
    cases hstep with
    | @saved _ _ id hend hfree =>
      rw [(bodySource_delivery body).1] at hnew ⊢
      have hbound : Function.update c.entries id (some ⟨bodyContent body, none⟩) id ≠ none := by
        rw [Function.update_self]
        exact nofun
      have htold : x.Tells r 201 (idWording id) := Reply.tells_id hresponse hgot
      refine ⟨_, .uploaded (bodySource_ended hend) (hnew id hfree hbound) hfree htold, rfl, fun i hi => ?_⟩
      rcases List.mem_cons.mp hi with rfl | hi
      · exact .inr ⟨hfree, hbound⟩
      · exact .inl hi
    | unsaved hend =>
      obtain ⟨err, hfailed, rfl⟩ := bodySource_error hend
      have htold := Reply.tells_of_error (e := .internal) hresponse hgot (by decide)
      exact ⟨c, .failed hfailed htold, rfl, fun _ hi => .inl hi⟩
  | download raw => exact absurd rfl (ha raw)
  | describe raw =>
    cases hstep with
    | @opened _ _ entry stored hentry hid hsize hdata =>
      obtain ⟨⟨id, size, metadata, made, changed⟩, reader⟩ := stored
      cases hid
      cases hsize
      cases hdata
      have htold : x.Tells r 200 (infoWording id entry.content.length entry.metadata made changed) :=
        Reply.tells_info hresponse hgot
      exact ⟨c, .described (hname raw rfl) hentry htold, rfl, fun _ hi => .inl hi⟩
    | unopened hnone =>
      exact ⟨c, .missing rfl nofun (hname raw rfl) hnone (Reply.tells_missing hresponse hgot), rfl, fun _ hi => .inl hi⟩
  | annotate raw data =>
    cases hstep with
    | annotated hentry =>
      exact ⟨_, .annotated (hname raw rfl) hentry (Reply.confirms_of_empty hresponse hgot), rfl,
        fun _ hi => .inl hi⟩
    | unannotated hnone =>
      exact ⟨c, .missing rfl nofun (hname raw rfl) hnone (Reply.tells_missing hresponse hgot), rfl, fun _ hi => .inl hi⟩
  | remove raw =>
    cases hstep with
    | deleted =>
      exact ⟨_, .removed (hname raw rfl) (Reply.confirms_of_empty hresponse hgot), rfl, fun _ hi => .inl hi⟩

/-- All but content is sent as text. -/
theorem handled_text {a : Action} (ha : ∀ raw, a ≠ .download raw)
    (o : Except StorageError (a.operation .own file).Value) :
    ∃ content, (a.handled r .own file o).response.body = .text content := by
  cases a with
  | download raw => exact absurd rfl (ha raw)
  | _ => cases o <;> exact ⟨_, rfl⟩

/-- Whoever wants anything but content is answered from the map. -/
theorem follows_of_step {a : Action} (h : b₁.After s ds) (hwants : r.Wants a) (ha : ∀ raw, a ≠ .download raw)
    (hname : ∀ raw, a.raw? = some raw → pathId? raw = some file)
    (hrun : b.run (receive .own r) =
      b₁.run ((a.operation .own file).program.bind fun o => deliver r (a.handled r .own file o))) :
    Follows s ds r a (b.exchange r) := by
  have hown : (a.operation .own file).OwnToken := by
    cases hwants with
    | upload hmethod hpath hbody => exact ⟨rfl, fun hstalled => hbody (bodySource_stalled hstalled)⟩
    | download hmethod hpath hrange => exact rfl
    | describe hmethod hpath => exact rfl
    | _ => exact trivial
  obtain ⟨s', d, hafter, hissued, hstep⟩ := h.performed hown
  generalize hop : b₁.run (a.operation .own file).program = y at hafter hstep
  obtain ⟨o, b₂⟩ := y
  obtain ⟨content, hbody⟩ := handled_text (r := r) ha o
  obtain ⟨hresponse, -, hbench⟩ := exchange_of_deliver (hrun.trans (run_bind hop _))
  have hgot := exchange_received (hrun.trans (run_bind hop _))
  rw [hbody] at hbench
  refine ⟨s', [d], hbench ▸ hafter, hissued, fun hids c hc => ?_⟩
  obtain ⟨hstep, hnew⟩ := hstep hids
  rw [← hc.entries] at hstep hnew
  have hgiven : ∀ id, c.entries id = none → s'.tables.vault id ≠ none → id ∉ c.given := fun id hnone hsome hmem =>
    (hnew id hnone hsome).1 (hc.given id hmem)
  obtain ⟨c', hreplies, hentries, hids'⟩ := replies_of_step ha hname hstep hgiven hresponse hgot
  refine ⟨c', hreplies, hentries, fun id hmem => ?_⟩
  rcases hids' id hmem with hmem | ⟨hnone, hsome⟩
  · rw [broughtIds_concat]
    exact List.mem_append_left _ (hc.given id hmem)
  · exact (hnew id hnone hsome).2

theorem requestedRange_of_none (hrange : r.header? "range" = none) (size : Nat) : requestedRange r size = none := by
  rw [requestedRange, hrange]
  rfl

/-- Content that is sent asks for no token but that of its reader. -/
theorem sendContent_own {stored : StoredFile} (hrange : r.header? "range" = none) (h : stored.reader.token = .own) :
    (Handled.response (sendContent r stored)).body.receive.Asks Query.Own := by
  unfold sendContent
  simp only [requestedRange_of_none hrange]
  exact Reader.Stream.collectWithin_own _ _ h

/-- **Whoever wants content is sent it**: the fetches find the chunks of the file that was opened. -/
theorem follows_download {raw : String} (h : b₁.After s ds) (hname : pathId? raw = some file)
    (hrange : r.header? "range" = none)
    (hrun : b.run (receive .own r) = b₁.run ((Storage.open .own file).bind fun o =>
      deliver r ((o.mapError ApiError.ofStorage).bind (sendContent r)))) :
    Follows s ds r (.download raw) (b.exchange r) := by
  obtain ⟨b₂, n, hopen, hafter⟩ := h.opened file
  obtain ⟨hresponse, hgot, hbench⟩ := exchange_of_deliver (hrun.trans (run_bind hopen _))
  have hreceived := exchange_received (hrun.trans (run_bind hopen _))
  cases hfile : s.tables.file? file with
  | none =>
    rw [hfile] at hresponse hbench
    refine ⟨{ s with fetches := n }, [], ?_, Nat.le_refl _, fun hids c hc => ⟨c, ?_, hc.entries, ?_⟩⟩
    · rw [hbench, List.append_nil]
      exact hafter
    · refine .missing rfl nofun hname ?_ (Reply.tells_missing hresponse hreceived)
      rw [hc.entries]
      exact vault_eq_none.mpr hfile
    · rw [List.append_nil]
      exact hc.given
  | some f =>
    rw [hfile] at hresponse hgot hbench
    -- the body is fetched from the tables as they were when the file was opened
    have hsend : (Except.mapError ApiError.ofStorage (opened .own (.ok (some f)))).bind (sendContent r) =
      sendContent r ⟨f.info, .new .own f.size f.chunkIds⟩ := rfl
    have hown : (Handled.response (sendContent r ⟨f.info, .new .own f.size f.chunkIds⟩)).body.receive.Asks
      Query.Own := sendContent_own hrange rfl
    rw [hsend] at hresponse hgot hbench
    obtain ⟨es, m, hends, hafter', halong⟩ := hafter.looked hown (Body.receive_looks _)
    refine ⟨{ s with fetches := m }, [], ?_, Nat.le_refl _, fun hids c hc => ⟨c, ?_, hc.entries, ?_⟩⟩
    · rw [hbench, List.append_nil]
      exact hafter'
    · obtain ⟨rows, hrows, hheld, hchunkIds, hsize⟩ := (h.intact hids).held hfile
      have hentry : c.entries file = some ⟨s.tables.content f, f.metadata⟩ := by
        rw [hc.entries]
        exact congrArg (Option.map _) hfile
      obtain ⟨hserves, -⟩ := halong.exchanges
        (P := Exchange.Serves .own f.chunkIds (pieces (s.tables.content f)))
        (I := fun w => ∃ n, w = { s with fetches := n })
        (fun q w a w' hq hserved => by
          rintro ⟨n, rfl⟩
          rw [hchunkIds]
          have hfound := Tables.Held.found (s := { s with fetches := n }) hheld h.quiet.faults hrows hserved .own
          exact ⟨hfound.1, hserved.refetched hq⟩)
        ((Body.receive_looks _).queries hends) ⟨n, rfl⟩
      have htracks : (Reader.new .own f.size f.chunkIds).Tracks (s.tables.content f) .own f.chunkIds .start := by
        rw [hsize]
        exact Reader.new_tracks _ _ _
      have hlength : f.chunkIds.length = (pieces (s.tables.content f)).length := by
        rw [hchunkIds]
        exact hrows.length_ids
      have hlisted : (StoredFile.mk f.info (.new .own f.size f.chunkIds)).info.size =
        (s.tables.content f).length := hsize
      have hsent := sendContent_whole hlength hlisted htracks (requestedRange_of_none hrange _) hends hserves
      refine .downloaded hname hentry ?_
      rw [hresponse, hgot]
      exact hsent.withHeaders r
    · rw [List.append_nil]
      exact hc.given

/-- Firing tokens is no call. -/
theorem run_fire_journal (b : Bench) (names : List String) : (b.run (Program.fire names)).2.journal = b.journal := by
  unfold Program.fire
  split <;> rfl

/-- **Whoever names no file is refused**, and the store is not called. -/
theorem follows_refused {a : Action} {raw : String} {fires : List String}
    {x : Response × List Bytes × Option StorageError} (h : b.After s ds) (hraw : a.raw? = some raw)
    (hname : pathId? raw = none) (hreceive : receive .own r = (Program.fire fires).bind fun _ => .done x)
    (hstatus : x.1.status = 400) : Follows s ds r a (b.exchange r) := by
  obtain ⟨b₁, hfire, h₁⟩ := h.fire fires
  have hjournal : b₁.journal = b.journal := by
    have hkept := run_fire_journal b fires
    rwa [hfire] at hkept
  have hrun : b.run (receive .own r) = (x, b₁) := (congrArg b.run hreceive).trans (run_bind hfire _)
  have hexchange : b.exchange r = (⟨x.1, x.2, []⟩, b₁) := by
    unfold exchange
    rw [hrun]
    simp only [hjournal, Nat.sub_self, List.take_zero]
  rw [hexchange]
  refine ⟨s, [], ?_, Nat.le_refl _, fun _ c hc => ⟨c, .refused hraw hname hstatus rfl, hc.entries, ?_⟩⟩
  · rw [List.append_nil]
    exact h₁
  · rw [List.append_nil]
    exact hc.given

/-- **A request is answered from the map**, whatever it wants. -/
theorem After.follows (h : b.After s ds) {a : Action} (hwants : r.Wants a) : Follows s ds r a (b.exchange r) := by
  -- the id that the path names, if it has to name one; a new file has none yet
  have hcases : (∃ raw, a.raw? = some raw ∧ pathId? raw = none) ∨
      ∃ file, ∀ raw, a.raw? = some raw → pathId? raw = some file := by
    cases hraw : a.raw? with
    | none => exact .inr ⟨.issue 0, nofun⟩
    | some raw =>
      cases hname : pathId? raw with
      | none => exact .inl ⟨raw, rfl, hname⟩
      | some file => exact .inr ⟨file, fun raw' heq => Option.some.inj heq ▸ hname⟩
  rcases hcases with ⟨raw, hraw, hname⟩ | ⟨file, hname⟩
  · obtain ⟨fires, x, hreceive, hstatus⟩ := receive_refused .own hwants hraw hname
    exact follows_refused h hraw hname hreceive hstatus
  · obtain ⟨fires, hreceive⟩ := receive_named .own hwants hname
    obtain ⟨b₁, hfire, h₁⟩ := h.fire fires
    have hrun := (congrArg b.run hreceive).trans (run_bind hfire _)
    by_cases ha : ∃ raw, a = .download raw
    · obtain ⟨raw, rfl⟩ := ha
      cases hwants with
      | download hmethod hpath hrange => exact follows_download h₁ (hname raw rfl) hrange hrun
    · exact follows_of_step h₁ hwants (fun raw heq => ha ⟨raw, heq⟩) hname hrun

end Requests

/-! ## Sessions -/

theorem After.session (h : b.After s ds) {rs : List Http.Request} (hrs : ∀ r ∈ rs, ∃ a, r.Wants a) :
    ∃ s' more, (b.session rs).2.After s' (ds ++ more) ∧ s.issued ≤ s'.issued ∧
      (s'.issued ≤ Uuid.issueCount → ∀ c : Catalog, c.Mirrors s ds →
        ∃ c', c.Session (b.session rs).1 c' ∧ c'.Mirrors s' (ds ++ more)) := by
  induction rs generalizing b s ds with
  | nil =>
    refine ⟨s, [], ?_, Nat.le_refl _, fun _ c hc => ⟨c, .nil c, ?_⟩⟩
    · rw [List.append_nil]
      exact h
    · rw [List.append_nil]
      exact hc
  | cons r rs ih =>
    obtain ⟨a, hwants⟩ := hrs r List.mem_cons_self
    obtain ⟨s₁, more, h₁, hissued₁, hreply⟩ := h.follows hwants
    obtain ⟨s₂, rest, h₂, hissued₂, hreplies⟩ := ih h₁ fun r' hr' => hrs r' (List.mem_cons_of_mem r hr')
    rw [List.append_assoc] at h₂ hreplies
    refine ⟨s₂, more ++ rest, h₂, Nat.le_trans hissued₁ hissued₂, fun hids c hc => ?_⟩
    obtain ⟨c₁, hfirst, hc₁⟩ := hreply (Nat.le_trans hissued₂ hids) c hc
    obtain ⟨c₂, hrest, hc₂⟩ := hreplies hids c₁ hc₁
    exact ⟨c₂, .cons hwants hfirst hrest, hc₂⟩

theorem session_requests (b : Bench) (rs : List Http.Request) : (b.session rs).1.map (·.1) = rs := by
  induction rs generalizing b with
  | nil => rfl
  | cons r rs ih => exact congrArg (r :: ·) (ih _)

/-- **Requests that come one after another are answered from a map.** Each of them brings what the map has for it
and makes of the map what `Catalog.Replies` says, from the empty map on; and in the end the map is what the store
holds. -/
theorem session_replies {rs : List Http.Request} (hrs : ∀ r ∈ rs, ∃ a, r.Wants a) :
    let y := (Bench.new (.memory .empty)).session rs
    y.1.map (·.1) = rs ∧ ∃ s, y.2.Holds s ∧
      (s.issued ≤ Uuid.issueCount → ∃ c, Catalog.empty.Session y.1 c ∧ c.entries = s.tables.vault) := by
  obtain ⟨s, ds, h, -, hreplies⟩ := After.new.session hrs
  refine ⟨session_requests _ rs, s, h.quiet.holds, fun hids => ?_⟩
  obtain ⟨c, hsession, hc⟩ := hreplies hids .empty ⟨rfl, fun _ hid => absurd hid List.not_mem_nil⟩
  exact ⟨c, hsession, hc.entries⟩

/-- Three bytes are uploaded, described, annotated and described again, and a text that is no id is asked for. -/
theorem session_replies_three_bytes :
    let rs : List Http.Request := [⟨"POST", "/files", [], [.bytes [97, 98, 99]]⟩,
      ⟨"GET", "/files/5f2c9a7be1d84c368000000000000000/info", [], []⟩,
      ⟨"PUT", "/files/5f2c9a7be1d84c368000000000000000/metadata", [], [.bytes [1]]⟩,
      ⟨"GET", "/files/5f2c9a7be1d84c368000000000000000/info", [], []⟩, ⟨"GET", "/files/1", [], []⟩]
    let y := (Bench.new (.memory .empty)).session rs
    (∀ r ∈ rs, ∃ a, r.Wants a) ∧ y.1.map (·.2.response.status) = [201, 200, 204, 200, 400] ∧
      (y.1.map (·.2.got.1.flatten)).take 4 = [
        "\x7b\"id\":\"5f2c9a7b-e1d8-4c36-8000-000000000000\"\x7d".toUTF8.data.toList,
        ("\x7b\"id\":\"5f2c9a7b-e1d8-4c36-8000-000000000000\",\"size\":3,\"metadata\":null," ++
          "\"created_at\":\"<ts>\",\"updated_at\":\"<ts>\"\x7d").toUTF8.data.toList, [],
        ("\x7b\"id\":\"5f2c9a7b-e1d8-4c36-8000-000000000000\",\"size\":3,\"metadata\":\"AQ==\"," ++
          "\"created_at\":\"<ts>\",\"updated_at\":\"<ts>\"\x7d").toUTF8.data.toList] ∧
      ∃ c, Catalog.empty.Session y.1 c ∧ c.entries (.issue 0) = some ⟨[97, 98, 99], some [1]⟩ := by
  intro rs y
  have hrs : ∀ r ∈ rs, ∃ a, r.Wants a := by
    simp only [rs, List.forall_mem_cons]
    exact ⟨⟨_, .upload rfl (by decide) nofun⟩,
      ⟨.describe "5f2c9a7be1d84c368000000000000000", .describe rfl (by decide)⟩,
      ⟨.annotate "5f2c9a7be1d84c368000000000000000" [1], .annotate rfl (by decide) rfl (by decide)⟩,
      ⟨.describe "5f2c9a7be1d84c368000000000000000", .describe rfl (by decide)⟩,
      ⟨.download "1", .download rfl (by decide) rfl⟩, List.forall_mem_nil _⟩
  obtain ⟨-, s, h, hsession⟩ := session_replies hrs
  -- what the store is in the end
  have hstore : y.2.store?.map (fun s => (s.issued, s.tables.vault (.issue 0))) =
      some (2, some ⟨[97, 98, 99], some [1]⟩) := by decide +kernel
  rw [h.store?] at hstore
  obtain ⟨hissued, hentry⟩ := Prod.mk.inj (Option.some.inj hstore)
  obtain ⟨c, hreplies, hentries⟩ := hsession (by rw [hissued]; decide)
  exact ⟨hrs, by decide +kernel, by decide +kernel, c, hreplies, hentries ▸ hentry⟩

end Bench
end ChunkVault
