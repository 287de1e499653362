/-
# ChunkVault.Proofs.Http.Machine -- downloads that are counted in machine words

A download counts too: the positions that a range selects, and the length of what lies between them. Here it is
defined a second time with the arithmetic of a machine, up to the stream that is sent. A file may have any size that
its row can hold, also a negative one, and a header may ask for any positions (`download_computes`).

`never_faults` puts this beside what is known of readers.
-/
import ChunkVault.Proofs.Machine
import ChunkVault.Proofs.Http.Download

namespace ChunkVault.Machine

open Program Http

/-! ## The downloads of a machine -/

/-- `RangeSpec.select`. The last position of a file that is not empty is a difference that has to be a word; the other
differences are cut off at zero. -/
def select? (size : Nat) : RangeSpec → Option (Option ByteRange)
  | .suffix n =>
    if n = 0 ∨ size = 0 then some (some .unsatisfiable)
    else do
      let last ← unsigned? ((size : Int) - 1)
      return some (.span (size - n) last)
  | .onward first => some (RangeSpec.select size (.onward first))
  | .between first last => some (RangeSpec.select size (.between first last))

/-- `Http.requestedRange`. -/
def requestedRange? (r : Http.Request) (size : Nat) : Option (Option ByteRange) :=
  match ((r.header? "range").filter isVisibleAscii).bind RangeSpec.parse? with
  | none => some none
  | some spec => select? size spec

/-- `Http.sendSpan`. The first position becomes a signed word, and the length of the span is an unsigned one. -/
def sendSpan? (file : StoredFile) (size first last : Nat) : Option Handled :=
  match signed? first with
  | none => some (.error (.badRequest "range start out of bounds"))
  | some offset =>
    match seek file.reader offset .start with
    | (.error e, _) => some (.error (.ofStorage e))
    | (.ok _, reader) => do
      let behind ← unsigned? ((last : Int) - first)
      let length ← unsigned? ((behind : Int) + 1)
      return .ok ⟨206, contentHeaders ++
        [("content-length", toString length),
          ("content-range", s!"bytes {first}-{last}/{size}")],
        .stream (reader.stream (some length))⟩

/-- `Http.sendContent`. -/
def sendContent? (r : Http.Request) (file : StoredFile) : Option Handled := do
  let size := file.info.size.toNat
  match ← requestedRange? r size with
  | some .unsatisfiable =>
    return .ok ((Response.empty 416).withHeaders [("content-range", s!"bytes */{size}")])
  | some (.span first last) => sendSpan? file size first last
  | none =>
    return .ok ⟨200, contentHeaders ++ [("content-length", toString size)],
      .stream (file.reader.stream none)⟩

/-- `Http.download`. -/
def download (shutdown : Token) (r : Http.Request) (raw : String) : OptionT Program Handled :=
  match fileId raw with
  | .error e => return .error e
  | .ok id => do
    match ← OptionT.lift (Storage.open shutdown id) with
    | .error e => return .error (.ofStorage e)
    | .ok file => check (sendContent? r file)

/-! ## Both downloads -/

/-- A response of which a machine can count everything that is sent. -/
def HandledBounded (handled : Handled) : Prop := ∀ s, handled.response.body = .stream s → StreamBounded s

/-- A text is no stream. -/
theorem HandledBounded.text {handled : Handled} {content : String} (h : handled.response.body = .text content) :
    HandledBounded handled := by
  intro s hs
  rw [h] at hs
  cases hs

/-- An open file of which a machine can count everything. -/
structure FileBounded (file : StoredFile) : Prop where
  size : Signed file.info.size
  reader : Bounded file.reader

/-- A size that is negative is taken for none. -/
theorem FileBounded.size_le {file : StoredFile} (h : FileBounded file) : (file.info.size.toNat : Int) ≤ maxPosition := by
  rw [Int.toNat_eq_max]
  exact Int.max_le.mpr ⟨h.size.2, by decide⟩

/-- **A file that is opened** has a size and chunks that a machine can count. -/
theorem open_computes (token : Token) (id : Uuid) :
    Computes (OptionT.lift (Storage.open token id)) (Storage.open token id) fun o =>
      ∀ file, o = .ok file → FileBounded file := by
  refine .lift fun es o hes hrun file ho => ?_
  obtain ⟨race, rfl, rfl⟩ := open_ends.mp hrun
  have hfits := hes _ List.mem_cons_self
  cases race with
  | refused => cases ho
  | abandoned => cases ho
  | finished outcome =>
    cases outcome with
    | error e => cases ho
    | ok found =>
      cases found with
      | none => cases ho
      | some row =>
        cases ho
        exact ⟨hfits.1, .new hfits.1 hfits.2 token⟩

theorem select?_eq {size : Nat} (hsize : size ≤ Text.maxWord64) (spec : RangeSpec) :
    select? size spec = some (spec.select size) := by
  cases spec with
  | suffix n =>
    unfold select? RangeSpec.select
    simp only
    split
    · rfl
    · next hnone =>
      have hlast : ((size : Int) - 1) = (size - 1 : Nat) := by omega
      rw [hlast, unsigned?_natCast (Nat.le_trans (Nat.sub_le ..) hsize)]
      rfl
  | onward first => rfl
  | between first last => rfl

theorem requestedRange?_eq {size : Nat} (hsize : size ≤ Text.maxWord64) (r : Http.Request) :
    requestedRange? r size = some (requestedRange r size) := by
  have hparse : requestedRange r size =
      (((r.header? "range").filter isVisibleAscii).bind RangeSpec.parse?).bind (RangeSpec.select size) :=
    (Option.bind_assoc ..).symm
  rw [hparse]
  unfold requestedRange?
  cases ((r.header? "range").filter isVisibleAscii).bind RangeSpec.parse? with
  | none => rfl
  | some spec => exact select?_eq hsize spec

/-- **The length of a span** is a word, since the span lies within a file with a size that is one. -/
theorem sendSpan?_eq {file : StoredFile} {size first last : Nat} (hsize : size ≤ maxPosition) (hfirst : first ≤ last)
    (hlast : last < size) : sendSpan? file size first last = some (sendSpan file size first last) := by
  have hoffset : Signed (first : Int) := signed_natCast (by omega)
  have hbehind : (last : Int) - first = (last - first : Nat) := by omega
  have hlength : ((last - first : Nat) : Int) + 1 = (last - first + 1 : Nat) := rfl
  have hfits : last - first + 1 ≤ Text.maxWord64 := le_maxWord64 (by omega)
  unfold sendSpan? sendSpan
  rw [signed?_eq hoffset, if_neg (by omega)]
  simp only [seek_eq hoffset]
  cases file.reader.seek first .start with
  | mk answer reader =>
    cases answer with
    | error e => rfl
    | ok position =>
      simp only
      rw [hbehind, unsigned?_natCast (Nat.le_of_succ_le hfits), Option.bind_eq_bind, Option.bind_some, hlength,
        unsigned?_natCast hfits]
      rfl

theorem sendContent?_eq {file : StoredFile} (h : FileBounded file) (r : Http.Request) :
    sendContent? r file = some (sendContent r file) := by
  have hle := h.size_le
  unfold sendContent? sendContent
  simp only [requestedRange?_eq (le_maxWord64 hle), Option.bind_eq_bind, Option.bind_some]
  cases hrange : requestedRange r file.info.size.toNat with
  | none => rfl
  | some range =>
    cases range with
    | unsatisfiable => rfl
    | span first last =>
      obtain ⟨value, -, -, hparse⟩ := requestedRange_eq_some.mp hrange
      obtain ⟨hfirst, hlast⟩ := ByteRange.parse?_span hparse
      exact sendSpan?_eq hle hfirst hlast

/-- What is sent of a file that a machine can count is a stream that it can count. -/
theorem sendContent_bounded {file : StoredFile} (h : FileBounded file) (r : Http.Request) :
    HandledBounded (sendContent r file) := by
  have hle := h.size_le
  unfold sendContent
  simp only
  cases hrange : requestedRange r file.info.size.toNat with
  | none =>
    intro s hs
    cases hs
    exact ⟨h.reader, fun n hn => absurd hn.symm (Option.some_ne_none n)⟩
  | some range =>
    cases range with
    | unsatisfiable => exact .text rfl
    | span first last =>
      obtain ⟨value, -, -, hparse⟩ := requestedRange_eq_some.mp hrange
      obtain ⟨hfirst, hlast⟩ := ByteRange.parse?_span hparse
      have hmoved := h.reader.seek first .start
      unfold sendSpan
      simp only
      split
      · exact .text rfl
      · generalize file.reader.seek first .start = moved at hmoved
        obtain ⟨answer, reader⟩ := moved
        cases answer with
        | error e => exact .text rfl
        | ok position =>
          intro s hs
          cases hs
          refine ⟨hmoved, fun n hn => ?_⟩
          cases hn
          exact le_maxWord64 (by omega)

/-- **A download** does without a fault. -/
theorem download_computes (shutdown : Token) (r : Http.Request) (raw : String) :
    Computes (download shutdown r raw) (Http.download shutdown r raw) HandledBounded := by
  unfold download Http.download
  cases fileId raw with
  | error e => exact .done (.text rfl)
  | ok id =>
    refine (open_computes shutdown id).bind fun o ho => ?_
    cases o with
    | error e => exact .done (.text rfl)
    | ok file => exact .check (sendContent?_eq (ho file rfl) r) (sendContent_bounded (ho file rfl) r)

/-! ## Readers and downloads -/

/-- The position of a stream that has not ended is a signed word, and not negative. -/
def Positioned (s : Option Reader.Stream) : Prop :=
  ∀ rest, s = some rest → 0 ≤ rest.reader.position ∧ rest.reader.position ≤ maxPosition

/-- A stream that a machine can count, asked for so many items. -/
theorem polls_positioned {s : Reader.Stream} (h : StreamBounded s) (n : Nat) :
    Computes (polls n (some s)) (Reader.Stream.polls n (some s)) fun run => Positioned run.2 := by
  have hsome : ∀ t, some s = some t → StreamBounded t := by
    rintro t ⟨⟩
    exact h
  refine (polls_computes n hsome).mono fun run hrun rest hrest => ?_
  exact ⟨(hrun rest hrest).reader.nonneg, (hrun rest hrest).reader.position⟩

/-- **The arithmetic of readers and downloads does not fault**, in words of 64 bits and over any store whose chunks
are no longer than `chunkSize`. On a file of any size and fewer than `maxChunks` chunks every history of operations,
and every stream that is taken after it, comes to what it comes to without bounds; so does the download of any file
with any header, and the stream that it sends. The position is a signed word throughout, and not negative. -/
theorem never_faults :
    (∀ (token : Token) (size : Int) (ids : List Uuid), Signed size → ids.length < maxChunks →
      ∀ ops : List ReaderOp, (∀ op ∈ ops, op.Fits) →
        Computes (history ops (.new token size ids)) (Reader.history ops (.new token size ids)) fun run =>
          (0 ≤ run.2.position ∧ run.2.position ≤ maxPosition) ∧
          ∀ limit, (∀ most, limit = some most → most ≤ Text.maxWord64) → ∀ n,
            Computes (polls n (some (run.2.stream limit))) (Reader.Stream.polls n (some (run.2.stream limit)))
              fun polled => Positioned polled.2) ∧
    ∀ (shutdown : Token) (r : Http.Request) (raw : String),
      Computes (download shutdown r raw) (Http.download shutdown r raw) fun handled =>
        ∀ content, handled.response.body = .stream content → ∀ n,
          Computes (polls n (some content)) (Reader.Stream.polls n (some content)) fun polled => Positioned polled.2 := by
  constructor
  · intro token size ids hsize hids ops hops
    refine (history_computes (.new hsize hids token) hops).mono fun run hrun => ?_
    exact ⟨⟨hrun.nonneg, hrun.position⟩, fun limit hlimit n => polls_positioned ⟨hrun, hlimit⟩ n⟩
  · intro shutdown r raw
    exact (download_computes shutdown r raw).mono fun handled h content hbody n => polls_positioned (h content hbody) n

/-- A file of the greatest size: a seek to the last position that there can be, one further which is refused, and
back; a read; and the rest of the chunk from a stream with the greatest limit. A download of the file from its second
byte on announces all bytes but one. -/
theorem never_faults_greatest_size :
    let r := Reader.new .own maxPosition [.issue 0]
    let ops : List ReaderOp := [.seek maxPosition .start, .seek 1 .current, .seek 0 .start, .read 2]
    let es : List Exchange := [⟨.race .own (.findChunk (.issue 0)), .finished (.ok (some [1, 2, 3]))⟩,
      ⟨.count .fetchChunk false, ()⟩]
    let replies : List ReaderReply :=
      [.seek (.ok maxPosition), .seek (.error .invalidPosition), .seek (.ok 0), .read (.ok ⟨[1, 2], false⟩)]
    let r' := { r with position := 2, cached := some ⟨0, [1, 2, 3]⟩ }
    let row : FileRecord := ⟨.issue 0, maxPosition, [.issue 0], none, .tick 0, .tick 0⟩
    let found : List Exchange := [⟨.race .own (.findFile (.issue 0)), .finished (.ok (some row))⟩,
      ⟨.count .open false, ()⟩]
    let id := "5f2c9a7b-e1d8-4c36-8000-000000000000"
    let request : Http.Request := ⟨"GET", "/files/" ++ id, [("range", "bytes=1-")], []⟩
    ((OptionT.run (history ops r)).Ends es (some (replies, r')) ∧
      (OptionT.run (polls 1 (some (r'.stream (some Text.maxWord64))))).Ends []
        (some ([some (.ok [3])], some ⟨{ r' with position := 3 }, some (Text.maxWord64 - 1)⟩))) ∧
    ∃ response, (OptionT.run (download .own request id)).Ends found (some (.ok response)) ∧
      response.values "content-length" = [toString (maxPosition.toNat - 1)] := by
  intro r ops es replies r' row found id request
  obtain ⟨hreaders, hdownloads⟩ := never_faults
  have hsigned : Signed maxPosition := by decide
  constructor
  · have hops : ∀ op ∈ ops, op.Fits := by
      refine List.forall_mem_cons.mpr ⟨hsigned, List.forall_mem_cons.mpr ⟨(by decide : Signed 1), ?_⟩⟩
      exact List.forall_mem_cons.mpr ⟨(by decide : Signed 0), List.forall_mem_singleton.mpr trivial⟩
    have hes : ∀ x ∈ es, x.Fits :=
      List.forall_mem_cons.mpr ⟨(by decide : 3 ≤ chunkSize), List.forall_mem_singleton.mpr trivial⟩
    obtain ⟨hiff, hleft⟩ := hreaders .own maxPosition [.issue 0] hsigned (by decide : 1 < maxChunks) ops hops es hes
    have hrun : (Reader.history ops r).Ends es (replies, r') := ⟨_, _, rfl, _, _, rfl, rfl, rfl⟩
    have hlimit : ∀ most, some Text.maxWord64 = some most → most ≤ Text.maxWord64 := by
      rintro most ⟨⟩
      exact Nat.le_refl _
    obtain ⟨hpolls, -⟩ := (hleft _ hrun).2 (some Text.maxWord64) hlimit 1 [] (List.forall_mem_nil _)
    have hpolled : (Reader.Stream.polls 1 (some (r'.stream (some Text.maxWord64)))).Ends []
        ([some (.ok [3])], some ⟨{ r' with position := 3 }, some (Text.maxWord64 - 1)⟩) := ⟨rfl, rfl⟩
    exact ⟨(hiff _).mpr ⟨_, rfl, hrun⟩, (hpolls _).mpr ⟨_, rfl, hpolled⟩⟩
  · have hfound : ∀ x ∈ found, x.Fits :=
      List.forall_mem_cons.mpr ⟨⟨hsigned, (by decide : 1 < maxChunks)⟩, List.forall_mem_singleton.mpr trivial⟩
    obtain ⟨hiff, -⟩ := hdownloads .own request id found hfound
    have hid : Uuid.parse? id = some (.issue 0) := by decide
    have hrange : requestedRange request row.info.size.toNat = some (.span 1 (maxPosition.toNat - 1)) := by decide
    have hsent : sendContent request ⟨row.info, r⟩ = .ok ⟨206, contentHeaders ++
        [("content-length", toString (maxPosition.toNat - 1)),
          ("content-range", s!"bytes {1}-{maxPosition.toNat - 1}/{maxPosition.toNat}")],
        .stream ((r.seek 1 .start).2.stream (some (maxPosition.toNat - 1)))⟩ := by
      unfold sendContent
      simp only [hrange]
      rfl
    have hdownload : (Http.download .own request id).Ends found (sendContent request ⟨row.info, r⟩) := by
      rw [download_eq hid]
      exact ⟨_, _, rfl, _, _, rfl, rfl, rfl⟩
    rw [hsent] at hdownload
    exact ⟨_, (hiff _).mpr ⟨_, rfl, hdownload⟩, rfl⟩

end ChunkVault.Machine
