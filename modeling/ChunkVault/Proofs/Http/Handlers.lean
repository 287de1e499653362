/-
# ChunkVault.Proofs.Http.Handlers -- what a request for the files is made of

A client wants one of five things of the files (`Action`). If the id in the path is one, the request is one
operation of the engine, and the response is made from what the operation answers (`receive_named`); if it is none,
the client is told so and nothing is asked at all (`receive_refused`). That holds over any store.

What is sent as the body of a request is said apart from the handlers that read it (`bodyContent`, `bodyEnd`). A
request whose body stalls for good, and is waited for by nobody who could give up, is never answered.
-/
import ChunkVault.Proofs.Http.Download

namespace ChunkVault.Http

open Program

/-! ## What is sent in a body -/

/-- The bytes that are sent as a body, and how it ends. The first failure is its end, of whatever kind it is. -/
def bodyDelivery : Source → Bytes × SourceEnd
  | [] => ([], .ended)
  | event :: rest =>
    match event with
    | .bytes content => (content ++ (bodyDelivery rest).1, (bodyDelivery rest).2)
    | .fail e => ([], .failed e)
    | .cancel _ | .pause => bodyDelivery rest
    | .stall _ => ([], .stalled)
    | .nothing => ([], .ended)

/-- The bytes that are sent as a body. -/
def bodyContent (body : Source) : Bytes := (bodyDelivery body).1

/-- How a body ends. -/
def bodyEnd (body : Source) : SourceEnd := (bodyDelivery body).2

/-- As the source of a new file a body delivers what is sent, and fails or stalls if it does. -/
theorem bodySource_delivery (body : Source) :
    (bodySource body).delivered = bodyContent body ∧
      (bodySource body).ending = match bodyEnd body with
        | .failed e => .failed { e with kind := .other }
        | ending => ending := by
  induction body with
  | nil => exact ⟨rfl, rfl⟩
  | cons event rest ih =>
    cases event with
    | bytes content => exact ⟨congrArg (content ++ ·) ih.1, ih.2⟩
    | fail e => exact ⟨rfl, rfl⟩
    | cancel token => exact ih
    | stall token => exact ⟨rfl, rfl⟩
    | pause => exact ih
    | nothing => exact ⟨rfl, rfl⟩

theorem bodySource_ended {body : Source} (h : (bodySource body).ending = .ended) : bodyEnd body = .ended := by
  rw [(bodySource_delivery body).2] at h
  split at h
  · cases h
  · exact h

theorem bodySource_stalled {body : Source} (h : (bodySource body).ending = .stalled) : bodyEnd body = .stalled := by
  rw [(bodySource_delivery body).2] at h
  split at h
  · cases h
  · exact h

/-- The failure of a body is that of the source, but for its kind. -/
theorem bodySource_error {body : Source} {e : StorageError} (h : (bodySource body).ending.error? = some e) :
    ∃ err, bodyEnd body = .failed err ∧ e = .unknown "file read" [err.message] := by
  rw [(bodySource_delivery body).2] at h
  split at h
  · next err hend => exact ⟨err, hend, (Option.some.inj h).symm⟩
  · next hend =>
    cases hbody : bodyEnd body with
    | failed err => exact absurd hbody (hend err)
    | ended =>
      rw [hbody] at h
      cases h
    | stalled =>
      rw [hbody] at h
      cases h

/-- A body that ends and is not too long is taken into memory as it is sent. -/
theorem bufferBody_ended {room : Nat} {body : Source} (hend : bodyEnd body = .ended)
    (hlength : (bodyContent body).length ≤ room) : (bufferBody room body).2 = some (.ok (bodyContent body)) := by
  induction body generalizing room with
  | nil => rfl
  | cons event rest ih =>
    cases event with
    | bytes content =>
      have hle : content.length + (bodyContent rest).length ≤ room := List.length_append ▸ hlength
      rw [bufferBody, if_pos (Nat.le_of_add_right_le hle)]
      show Option.map _ (bufferBody (room - content.length) rest).2 = _
      rw [ih hend (Nat.le_sub_of_add_le' hle)]
      rfl
    | fail e => cases hend
    | cancel token => exact ih hend hlength
    | stall token => cases hend
    | pause => exact ih hend hlength
    | nothing => rfl

theorem bufferBody_bodyLimit {body : Source} (hend : bodyEnd body = .ended)
    (hlength : (bodyContent body).length ≤ 2 * 1024 * 1024) :
    (bufferBody bodyLimit body).2 = some (.ok (bodyContent body)) := bufferBody_ended hend hlength

/-! ## What a client can want -/

/-- What a client can want of the files. Ids are as they stand in the path, not yet decoded. -/
inductive Action where
  | upload (body : Source)
  | download (raw : String)
  | describe (raw : String)
  /-- The metadata has been taken into memory. -/
  | annotate (raw : String) (data : Bytes)
  | remove (raw : String)

/-- A request that wants this: for the whole content if it wants content, and with a body that ends and is short
enough to be taken into memory if that is metadata. No response comes to an upload whose body stalls for good, as
long as the server is not shut down. -/
inductive Request.Wants (r : Request) : Action → Prop
  | upload (hmethod : r.method = "POST") (hpath : Route.ofPath? r.path = some .files)
      (hbody : bodyEnd r.body ≠ .stalled) : r.Wants (.upload r.body)
  | download {raw : String} (hmethod : r.method = "GET") (hpath : Route.ofPath? r.path = some (.file raw))
      (hrange : r.header? "range" = none) : r.Wants (.download raw)
  | describe {raw : String} (hmethod : r.method = "GET") (hpath : Route.ofPath? r.path = some (.info raw)) :
      r.Wants (.describe raw)
  | annotate {raw : String} (hmethod : r.method = "PUT") (hpath : Route.ofPath? r.path = some (.metadata raw))
      (hbody : bodyEnd r.body = .ended) (hlength : (bodyContent r.body).length ≤ 2 * 1024 * 1024) :
      r.Wants (.annotate raw (bodyContent r.body))
  | remove {raw : String} (hmethod : r.method = "DELETE") (hpath : Route.ofPath? r.path = some (.file raw)) :
      r.Wants (.remove raw)

/-- The id that a text in a path stands for. -/
def pathId? (raw : String) : Option Uuid := (Text.percentDecode? raw).bind Uuid.parse?

namespace Action

/-- The text that stands for the id of the file. A new file has none yet. -/
def raw? : Action → Option String
  | upload _ => none
  | download raw | describe raw | annotate raw _ | remove raw => some raw

/-- The operation that brings about what is wanted of this file. -/
def operation (shutdown : Token) (file : Uuid) : Action → Operation
  | upload body => .save shutdown (bodySource body)
  | download _ | describe _ => .open shutdown file
  | annotate _ data => .setMetadata file data
  | remove _ => .delete file

/-- The handler, by the text that stands for the id. -/
def handler (shutdown : Token) (r : Request) : Action → String → Program Handled
  | upload body, _ => Http.upload shutdown body
  | download _, id => Http.download shutdown r id
  | describe _, id => info shutdown id
  | annotate .., id => replaceMetadata id r.body
  | remove _, id => Http.remove id

/-- What the handler makes of the answer of the operation. -/
def handled (r : Request) (shutdown : Token) (file : Uuid) :
    (a : Action) → Except StorageError (a.operation shutdown file).Value → Handled
  | upload _, o => (o.mapError ApiError.ofStorage).map fun id =>
      .json 201 (Text.jsonObject [("id", Text.jsonString id.text)])
  | download _, o => (o.mapError ApiError.ofStorage).bind (sendContent r)
  | describe _, o => (o.mapError ApiError.ofStorage).map fun stored => .json 200 (infoText stored.info)
  | annotate .., o => (o.mapError ApiError.ofStorage).map fun _ => .empty 204
  | remove _, o => (o.mapError ApiError.ofStorage).map fun _ => .empty 204

end Action

/-- Sends what a handler made, and the body of it to the end. -/
def deliver (r : Request) (h : Handled) : Program (Response × List Bytes × Option StorageError) :=
  h.response.body.receive.bind fun got => .done (h.response.withHeaders (Cors.headers r), got)

/-- What a client receives whose request is handled. -/
theorem receive_handle {r : Request} {route : Route} (verb : Verb) (hpath : Route.ofPath? r.path = some route)
    (hmethod : r.method = verb.name) (hverb : verb ∈ route.verbs) (hhead : verb ≠ .head) (shutdown : Token) :
    receive shutdown r = (handle shutdown r route verb).bind (deliver r) := by
  unfold receive
  rw [respond_handle verb hpath hmethod hverb hhead shutdown]
  exact Program.bind_assoc _ _ _

/-- A response of text has all that comes of it. -/
theorem deliver_text {h : Handled} {content : String} (hbody : h.response.body = .text content) (r : Request) :
    deliver r h = .done (h.response.withHeaders (Cors.headers r), [content.toUTF8.data.toList], none) := by
  rw [deliver, hbody]
  rfl

/-! ## Handlers -/

section Handlers

variable {r : Request} {a : Action} {raw id : String} {file : Uuid} (shutdown : Token)

/-- A request for a file is handed on with the text that stands for its id. -/
theorem receive_withId (h : r.Wants a) (hraw : a.raw? = some raw) :
    receive shutdown r = (withId raw (a.handler shutdown r)).bind (deliver r) := by
  cases h with
  | upload hmethod hpath hbody => cases hraw
  | download hmethod hpath hrange =>
    cases hraw
    exact receive_handle .get hpath hmethod List.mem_cons_self nofun shutdown
  | describe hmethod hpath =>
    cases hraw
    exact receive_handle .get hpath hmethod List.mem_cons_self nofun shutdown
  | annotate hmethod hpath hbody hlength =>
    cases hraw
    exact receive_handle .put hpath hmethod List.mem_cons_self nofun shutdown
  | remove hmethod hpath =>
    cases hraw
    exact receive_handle .delete hpath hmethod (by simp [Route.verbs]) nofun shutdown

/-- **A handler is one operation on the file**, and makes something of its answer. Tokens may fire while a body is
taken into memory. -/
theorem handler_eq (h : r.Wants a) (hid : Uuid.parse? id = some file) :
    ∃ fires, a.handler shutdown r id = (Program.fire fires).bind fun _ =>
      (a.operation shutdown file).program.bind fun o => .done (a.handled r shutdown file o) := by
  have hfileId : fileId id = .ok file := by rw [fileId, hid]
  cases h with
  | upload hmethod hpath hbody =>
    refine ⟨[], congrArg (Storage.save shutdown (bodySource r.body)).bind (funext fun o => ?_)⟩
    cases o <;> rfl
  | download hmethod hpath hrange => exact ⟨[], download_eq hid shutdown r⟩
  | describe hmethod hpath =>
    refine ⟨[], ?_⟩
    show info shutdown id = _
    unfold info
    rw [hfileId]
    refine congrArg (Storage.open shutdown file).bind (funext fun o => ?_)
    cases o <;> rfl
  | annotate hmethod hpath hbody hlength =>
    refine ⟨(bufferBody bodyLimit r.body).1, ?_⟩
    show replaceMetadata id r.body = _
    unfold replaceMetadata
    simp only [bufferBody_bodyLimit hbody hlength, hfileId]
    refine congrArg (Program.fire _).bind (funext fun _ => ?_)
    refine congrArg (Storage.setMetadata file _).bind (funext fun o => ?_)
    cases o <;> rfl
  | remove hmethod hpath =>
    refine ⟨[], ?_⟩
    show remove id = _
    unfold remove
    rw [hfileId]
    refine congrArg (Storage.delete file).bind (funext fun o => ?_)
    cases o <;> rfl

/-- A handler begins no operation if the text is no id. -/
theorem handler_refuses (h : r.Wants a) (hraw : a.raw? = some raw) (hid : Uuid.parse? id = none) :
    ∃ fires, a.handler shutdown r id = (Program.fire fires).bind fun _ =>
      .done (.error (.badRequest "not valid file id")) := by
  have hfileId : fileId id = .error (.badRequest "not valid file id") := by rw [fileId, hid]
  cases h with
  | upload hmethod hpath hbody => cases hraw
  | download hmethod hpath hrange =>
    refine ⟨[], ?_⟩
    show download shutdown r id = _
    rw [download, hfileId]
    rfl
  | describe hmethod hpath =>
    refine ⟨[], ?_⟩
    show info shutdown id = _
    rw [info, hfileId]
    rfl
  | annotate hmethod hpath hbody hlength =>
    refine ⟨(bufferBody bodyLimit r.body).1, ?_⟩
    show replaceMetadata id r.body = _
    unfold replaceMetadata
    simp only [bufferBody_bodyLimit hbody hlength, hfileId]
    rfl
  | remove hmethod hpath =>
    refine ⟨[], ?_⟩
    show remove id = _
    rw [remove, hfileId]
    rfl

/-! ## Requests -/

/-- **A request for a file is one operation**, and the response is made from its answer. -/
theorem receive_named (h : r.Wants a) (hname : ∀ raw, a.raw? = some raw → pathId? raw = some file) :
    ∃ fires, receive shutdown r = (Program.fire fires).bind fun _ =>
      (a.operation shutdown file).program.bind fun o => deliver r (a.handled r shutdown file o) := by
  cases hraw : a.raw? with
  | none =>
    cases h with
    | upload hmethod hpath hbody =>
      refine ⟨[], (receive_handle .post hpath hmethod List.mem_cons_self nofun shutdown).trans ?_⟩
      refine (Program.bind_assoc _ _ _).trans ?_
      refine congrArg (Storage.save shutdown (bodySource r.body)).bind (funext fun o => ?_)
      cases o <;> rfl
    | _ => cases hraw
  | some raw =>
    obtain ⟨id, hdecoded, hid⟩ := Option.bind_eq_some_iff.mp (hname raw hraw)
    obtain ⟨fires, hhandler⟩ := handler_eq shutdown h hid
    refine ⟨fires, ?_⟩
    rw [receive_withId shutdown h hraw, withId, hdecoded]
    simp only [hhandler, Program.bind_assoc]
    rfl

/-- **A text that is no id is refused**, and no operation is begun. -/
theorem receive_refused (h : r.Wants a) (hraw : a.raw? = some raw) (hname : pathId? raw = none) :
    ∃ fires x, receive shutdown r = (Program.fire fires).bind (fun _ => .done x) ∧ x.1.status = 400 := by
  rw [receive_withId shutdown h hraw, withId]
  cases hdecoded : Text.percentDecode? raw with
  | none => exact ⟨[], _, rfl, rfl⟩
  | some id =>
    have hid : Uuid.parse? id = none := by rwa [pathId?, hdecoded] at hname
    obtain ⟨fires, hhandler⟩ := handler_refuses shutdown h hraw hid
    have hdeliver := deliver_text (h := .error (.badRequest "not valid file id")) rfl r
    have heq : ((Program.fire fires).bind fun _ => Program.done _).bind (deliver r) =
        (Program.fire fires).bind fun _ => .done _ :=
      (Program.bind_assoc _ _ _).trans (congrArg _ (funext fun _ => hdeliver))
    exact ⟨fires, _, (congrArg (Program.bind · (deliver r)) hhandler).trans heq, rfl⟩

end Handlers

end ChunkVault.Http
