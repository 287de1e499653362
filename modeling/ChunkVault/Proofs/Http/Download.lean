/-
# ChunkVault.Proofs.Http.Download -- a download honours the range that was asked for

A client asks for a file, and is sent all of it, one span of it, or word that no byte lies in the range
(`Downloaded`). What is announced as the length is the number of bytes that come, and neither the seek to the
front of a span nor the stream can fail (`receive_downloaded`).

Nothing is asked of a store but that it finds the row of the file, and answers each fetch of a chunk with the
chunk in question.
-/
import ChunkVault.Http.Api
import ChunkVault.Proofs.Smooth
import ChunkVault.Proofs.Streaming

namespace ChunkVault

open Program

/-- A look for the row of a file is answered with a row of this size and these chunks. -/
def Exchange.Finds (file : Uuid) (size : Int) (ids : List Uuid) : Exchange → Prop
  | ⟨.race _ (.findFile id), answer⟩ => id = file →
      ∃ row : FileRecord, answer = .finished (.ok (some row)) ∧ row.size = size ∧ row.chunkIds = ids
  | _ => True

namespace Http

/-! ## What a client receives -/

/-- The pieces of a body in their order, and the error that it ends with, if any. Counters are not content. -/
def Body.receive : Body → Program (List Bytes × Option StorageError)
  | .text content => .done ([content.toUTF8.data.toList], none)
  | .stream content => content.collect fun _ => .done ()
  | .counters => .done ([], none)

/-- The response to a request, and its body to the end. -/
def receive (shutdown : Token) (r : Request) : Program (Response × List Bytes × Option StorageError) := do
  let response ← respond shutdown r
  let got ← response.body.receive
  return (response, got)

/-- A request for the content of a file. -/
structure Request.Gets (r : Request) (file : Uuid) : Prop where
  method : r.method = "GET"
  path : ∃ raw id, Route.ofPath? r.path = some (.file raw) ∧ Text.percentDecode? raw = some id ∧
    Uuid.parse? id = some file

/-- The values of all headers of this name. -/
def Response.values (response : Response) (name : String) : List String :=
  (response.headers.filter (·.1 = name)).map (·.2)

/-- A response and a body that belong together: as many bytes as are announced, and no failure. -/
structure Sent (response : Response) (got : List Bytes × Option StorageError) (status length : Nat)
    (range : Option String) (content : Bytes) : Prop where
  status : response.status = status
  announced : response.values "content-length" = [toString length]
  counted : got.1.flatten.length = length
  range : response.values "content-range" = range.toList
  content : got.1.flatten = content
  unbroken : got.2 = none

/-- What is sent to a client who asks for a file with this content. -/
inductive Downloaded (content : Bytes) (r : Request) (response : Response)
    (got : List Bytes × Option StorageError) : Prop
  /-- All of it, if there is no `range` header, or one that is no visible ASCII or is to be ignored. -/
  | whole (hignored : ∀ value, r.header? "range" = some value → isVisibleAscii value = true →
        ByteRange.parse? value content.length = none)
      (hsent : Sent response got 200 content.length none content)
  /-- Nothing, if the file has none of the positions that are asked for. -/
  | nothing {value : String} (hvalue : r.header? "range" = some value) (hvisible : isVisibleAscii value = true)
      (hrange : ByteRange.parse? value content.length = some .unsatisfiable)
      (hsent : Sent response got 416 0 (some s!"bytes */{content.length}") [])
  /-- The bytes from one position to another, both included. -/
  | span {value : String} {first last : Nat} (hvalue : r.header? "range" = some value)
      (hvisible : isVisibleAscii value = true)
      (hrange : ByteRange.parse? value content.length = some (.span first last))
      (hsent : Sent response got 206 (last - first + 1) (some s!"bytes {first}-{last}/{content.length}")
        ((content.drop first).take (last - first + 1)))

/-! ## Ranges -/

/-- **A span lies within the file**, and is not empty. -/
theorem RangeSpec.select_span {spec : RangeSpec} {size first last : Nat}
    (h : spec.select size = some (.span first last)) : first ≤ last ∧ last < size := by
  unfold RangeSpec.select at h
  cases spec with
  | suffix n =>
    simp only at h
    split at h
    · cases h
    · cases h
      omega
  | onward a =>
    simp only at h
    split at h
    · cases h
    · cases h
      omega
  | between a b =>
    simp only at h
    split at h
    · cases h
    · split at h
      · cases h
      · cases h
        omega

theorem ByteRange.parse?_span {header : String} {size first last : Nat}
    (h : ByteRange.parse? header size = some (.span first last)) : first ≤ last ∧ last < size := by
  obtain ⟨spec, -, hselect⟩ := Option.bind_eq_some_iff.mp h
  exact RangeSpec.select_span hselect

theorem requestedRange_eq_some {r : Request} {size : Nat} {range : ByteRange} :
    requestedRange r size = some range ↔ ∃ value, r.header? "range" = some value ∧
      isVisibleAscii value = true ∧ ByteRange.parse? value size = some range := by
  simp only [requestedRange, Option.bind_eq_some_iff, Option.filter_eq_some_iff, and_assoc]

/-- The length of a span. -/
theorem length_span {content : Bytes} {first last : Nat} (h : first ≤ last) (hlast : last < content.length) :
    ((content.drop first).take (last - first + 1)).length = last - first + 1 := by
  rw [List.length_take, List.length_drop]
  omega

/-! ## Headers -/

theorem Cors.mem_headers {r : Request} {header : String × String} (h : header ∈ Cors.headers r) :
    header ∈ Cors.always ∨ header.1 = "access-control-allow-origin" := by
  refine (List.mem_append.mp h).imp_right fun h => ?_
  unfold Cors.handBack at h
  split at h
  · rw [List.mem_singleton.mp h]
  · exact absurd h List.not_mem_nil

/-- The headers that every response carries say nothing about its content. -/
theorem values_withHeaders (response : Response) (r : Request) {name : String}
    (hname : name ∈ ["content-length", "content-range"]) :
    (response.withHeaders (Cors.headers r)).values name = response.values name := by
  have halways : ∀ header ∈ Cors.always, header.1 ∉ ["content-length", "content-range"] := by decide
  have hnone : (Cors.headers r).filter (·.1 = name) = [] := by
    refine List.filter_eq_nil_iff.mpr fun header hmem heq => ?_
    obtain rfl := of_decide_eq_true heq
    rcases Cors.mem_headers hmem with hmem | horigin
    · exact halways header hmem hname
    · rw [horigin] at hname
      exact absurd hname (by decide)
  show ((response.headers ++ Cors.headers r).filter _).map _ = _
  rw [List.filter_append, hnone, List.append_nil]
  rfl

theorem Sent.withHeaders {response : Response} {got : List Bytes × Option StorageError} {status length : Nat}
    {range : Option String} {content : Bytes} (h : Sent response got status length range content)
    (r : Request) : Sent (response.withHeaders (Cors.headers r)) got status length range content :=
  { h with
    announced := (values_withHeaders response r (by decide)).trans h.announced
    range := (values_withHeaders response r (by decide)).trans h.range }

/-! ## Downloads -/

theorem Verb.ofName?_name (verb : Verb) : Verb.ofName? verb.name = some verb := by
  cases verb <;> decide

/-- A request whose route answers to its method is handled. -/
theorem respond_handle {r : Request} {route : Route} (verb : Verb) (hpath : Route.ofPath? r.path = some route)
    (hmethod : r.method = verb.name) (hverb : verb ∈ route.verbs) (hhead : verb ≠ .head) (shutdown : Token) :
    respond shutdown r = (handle shutdown r route verb).bind fun h =>
      .done (h.response.withHeaders (Cors.headers r)) := by
  have hfound : (Verb.ofName? r.method).filter (· ∈ route.verbs) = some verb := by
    rw [hmethod, Verb.ofName?_name]
    exact Option.filter_some_pos (decide_eq_true hverb)
  have hoptions : r.method ≠ "OPTIONS" := by
    rw [hmethod]
    cases verb <;> decide
  unfold respond serveRoute
  simp only [hpath, hfound, bind_eq, pure_eq, Program.bind_assoc, done_bind]
  rw [if_neg hoptions]
  exact congrArg _ (funext fun h => by rw [if_neg hhead])

/-- Sending the content of a file is opening it first. -/
theorem download_eq {id : String} {file : Uuid} (hid : Uuid.parse? id = some file) (shutdown : Token) (r : Request) :
    download shutdown r id = (Storage.open shutdown file).bind fun o =>
      .done ((o.mapError ApiError.ofStorage).bind (sendContent r)) := by
  unfold download
  rw [show fileId id = .ok file by rw [fileId, hid]]
  refine congrArg (Storage.open shutdown file).bind (funext fun o => ?_)
  cases o <;> rfl

/-- **A request for a file opens it**, and sends what it is asked for. -/
theorem respond_get {r : Request} {file : Uuid} (h : r.Gets file) (shutdown : Token) :
    respond shutdown r = (Storage.open shutdown file).bind fun o =>
      .done ((Handled.response ((o.mapError ApiError.ofStorage).bind (sendContent r))).withHeaders
        (Cors.headers r)) := by
  obtain ⟨raw, id, hroute, hid, hfile⟩ := h.path
  have hget : Verb.get ∈ (Route.file raw).verbs := List.mem_cons_self
  rw [respond_handle .get hroute h.method hget nofun]
  unfold handle withId
  simp only [hid]
  rw [if_neg nofun, download_eq hfile, Program.bind_assoc]
  rfl

section Downloads

variable {content : Bytes} {token : Token} {ids : List Uuid} {es : List Exchange} {r : Request} {file : Uuid}
  {stored : StoredFile} {response : Response} {got : List Bytes × Option StorageError}

/-- A file that is found is opened. -/
theorem open_found {size : Int} {o : Except StorageError StoredFile}
    (hrun : (Storage.open token file).Ends es o) (hfound : ∀ x ∈ es, x.Finds file size ids) :
    ∃ stored, o = .ok stored ∧ stored.info.size = size ∧ stored.reader = .new token size ids := by
  obtain ⟨race, rfl, rfl⟩ := open_ends.mp hrun
  obtain ⟨row, rfl, rfl, rfl⟩ := hfound _ List.mem_cons_self rfl
  exact ⟨_, rfl, rfl, rfl⟩

/-- A stream of the content from some position on. -/
theorem receive_stream (hids : ids.length = (pieces content).length) {reader : Reader} {c : Cursor}
    (h : reader.Tracks content token ids c) (hc : Cursor.Readable content c) {limit : Option Nat}
    (hrun : (Body.stream (reader.stream limit)).receive.Ends es got)
    (hserved : ∀ x ∈ es, x.Serves token ids (pieces content)) :
    got.1.flatten = Reader.upTo limit (content.drop c.position) ∧ got.2 = none :=
  Reader.Stream.collect_tracks hids h hc hrun hserved

/-- **The bytes of a span are sent**, after a seek that cannot fail. -/
theorem sendSpan_sent (hids : ids.length = (pieces content).length) (hlen : content.length ≤ maxPosition)
    (hreader : stored.reader.Tracks content token ids .start) {first last : Nat} (hfirst : first ≤ last)
    (hlast : last < content.length)
    (hrun : (Handled.response (sendSpan stored content.length first last)).body.receive.Ends es got)
    (hserved : ∀ x ∈ es, x.Serves token ids (pieces content)) :
    Sent (Handled.response (sendSpan stored content.length first last)) got 206 (last - first + 1)
      (some s!"bytes {first}-{last}/{content.length}") ((content.drop first).take (last - first + 1)) := by
  have hposition : (first : Int) ≤ maxPosition := by omega
  -- the seek, on the side of the cursor
  obtain ⟨hseek, htracks⟩ := hreader.seek_tracks first .start
  have hcursor : Cursor.seek content .start first .start = (.ok first, ⟨first, false, false⟩) := by
    unfold Cursor.seek
    simp only [Cursor.start, Bool.false_eq_true, if_false, Cursor.origin, Int.zero_add]
    rw [if_pos ⟨Int.natCast_nonneg first, hposition⟩]
    rfl
  rw [hcursor] at hseek htracks
  have hsend : sendSpan stored content.length first last =
      .ok ⟨206, contentHeaders ++ [("content-length", toString (last - first + 1)),
          ("content-range", s!"bytes {first}-{last}/{content.length}")],
        .stream ((stored.reader.seek first .start).2.stream (some (last - first + 1)))⟩ := by
    unfold sendSpan
    rw [if_neg (Int.not_lt.mpr hposition)]
    cases hboth : stored.reader.seek first .start with
    | mk answer reader =>
      rw [hboth] at hseek
      obtain rfl : answer = .ok (first : Int) := hseek
      rfl
  rw [hsend] at hrun ⊢
  obtain ⟨hcontent, hunbroken⟩ := receive_stream hids htracks ⟨rfl, nofun⟩ hrun hserved
  have hcontent : got.1.flatten = (content.drop first).take (last - first + 1) := hcontent
  have hcounted : got.1.flatten.length = last - first + 1 := by rw [hcontent, length_span hfirst hlast]
  exact ⟨rfl, rfl, hcounted, rfl, hcontent, hunbroken⟩

/-- **The whole content is sent** if no range is asked for, however long it is. -/
theorem sendContent_whole (hids : ids.length = (pieces content).length)
    (hsize : stored.info.size = content.length) (hreader : stored.reader.Tracks content token ids .start)
    (hrange : requestedRange r content.length = none)
    (hrun : (Handled.response (sendContent r stored)).body.receive.Ends es got)
    (hserved : ∀ x ∈ es, x.Serves token ids (pieces content)) :
    Sent (Handled.response (sendContent r stored)) got 200 content.length none content := by
  have hlength : stored.info.size.toNat = content.length := by rw [hsize, Int.toNat_natCast]
  unfold sendContent at hrun ⊢
  simp only [hlength, hrange] at hrun ⊢
  obtain ⟨hcontent, hunbroken⟩ := receive_stream hids hreader ⟨rfl, nofun⟩ hrun hserved
  have hcontent : got.1.flatten = content := hcontent
  exact ⟨rfl, rfl, congrArg List.length hcontent, rfl, hcontent, hunbroken⟩

/-- **An open file is sent as the request asks for it.** -/
theorem sendContent_downloaded (hids : ids.length = (pieces content).length)
    (hlen : content.length ≤ maxPosition) (hsize : stored.info.size = content.length)
    (hreader : stored.reader.Tracks content token ids .start)
    (hresponse : response = (Handled.response (sendContent r stored)).withHeaders (Cors.headers r))
    (hrun : response.body.receive.Ends es got) (hserved : ∀ x ∈ es, x.Serves token ids (pieces content)) :
    Downloaded content r response got := by
  subst hresponse
  cases hrange : requestedRange r content.length with
  | none =>
    refine .whole (fun value hvalue hvisible => ?_)
      ((sendContent_whole hids hsize hreader hrange hrun hserved).withHeaders r)
    rw [Option.eq_none_iff_forall_ne_some]
    intro range hparse
    have hsome := requestedRange_eq_some.mpr ⟨value, hvalue, hvisible, hparse⟩
    rw [hrange] at hsome
    cases hsome
  | some range =>
    have hlength : stored.info.size.toNat = content.length := by rw [hsize, Int.toNat_natCast]
    unfold sendContent at hrun ⊢
    simp only [hlength, hrange] at hrun ⊢
    obtain ⟨value, hvalue, hvisible, hparse⟩ := requestedRange_eq_some.mp hrange
    cases range with
    | unsatisfiable =>
      obtain ⟨-, rfl⟩ := hrun
      have hempty : ["".toUTF8.data.toList].flatten = [] := rfl
      refine .nothing hvalue hvisible hparse (Sent.withHeaders ?_ r)
      exact ⟨rfl, rfl, congrArg List.length hempty, rfl, hempty, rfl⟩
    | span first last =>
      obtain ⟨hfirst, hlast⟩ := ByteRange.parse?_span hparse
      have hsent := sendSpan_sent hids hlen hreader hfirst hlast hrun hserved
      exact .span hvalue hvisible hparse (hsent.withHeaders r)

/-- **A download honours the range that was asked for**, over any store that finds the row of the file and its
chunks. -/
theorem receive_downloaded (hget : r.Gets file) (hids : ids.length = (pieces content).length)
    (hlen : content.length ≤ maxPosition) (hrun : (receive token r).Ends es (response, got))
    (hserved : ∀ x ∈ es, x.Serves token ids (pieces content))
    (hfound : ∀ x ∈ es, x.Finds file content.length ids) : Downloaded content r response got := by
  unfold receive at hrun
  rw [respond_get hget] at hrun
  simp only [bind_eq, Program.bind_assoc, done_bind, ends_bind] at hrun
  obtain ⟨es₁, _, o, rfl, hopen, es₂, es₃, got', rfl, hbody, -, heq⟩ := hrun
  obtain ⟨rfl, rfl⟩ := Prod.mk.inj heq
  obtain ⟨stored, rfl, hsize, hreader⟩ := open_found hopen fun x hx => hfound x (List.mem_append_left _ hx)
  have htracks : stored.reader.Tracks content token ids .start := hreader ▸ Reader.new_tracks content token ids
  exact sendContent_downloaded hids hlen hsize htracks rfl hbody fun x hx =>
    hserved x (List.mem_append_right _ (List.mem_append_left _ hx))

end Downloads

end Http
end ChunkVault
