/-
# ChunkVault.Http.Api -- the files, over HTTP

    POST   /files                a new file from the body
    GET    /files/:id            its content, whole or a range of it
    DELETE /files/:id            removes it, whether or not it was there
    GET    /files/:id/info       its size, its metadata and its stamps
    PUT    /files/:id/metadata   replaces its metadata by the body

A response is made by an operation like any other; the body of a download is a stream that is still to be
read when the response has been made. Uploads and downloads end when the `shutdown` token fires.
-/
import ChunkVault.Storage
import ChunkVault.Http.ApiError
import ChunkVault.Http.Cors
import ChunkVault.Text.Percent
import ChunkVault.Http.Range
import ChunkVault.Http.Route
import ChunkVault.Text.Base64

namespace ChunkVault.Http

/-! ## Bodies of requests -/

/-- The greatest body that is taken into memory. -/
def bodyLimit : Nat := 2 * 1024 * 1024

/-- Why a body could not be taken into memory. -/
inductive BodyError where
  | failed (message : String)
  | tooLong
deriving DecidableEq

namespace BodyError

/-- The response to a request whose body could not be taken. -/
def response : BodyError → Response
  | failed message => .plain 400 ("Failed to buffer the request body: " ++ message)
  | tooLong => .plain 413 "Failed to buffer the request body: length limit exceeded"

end BodyError

/-- Takes a whole body into memory, and tells which tokens fired on the way. Nothing comes of a body that
stalls for good. -/
def bufferBody (room : Nat) : Source → List String × Option (Except BodyError Bytes)
  | [] => ([], some (.ok []))
  | event :: rest =>
    match event with
    | .bytes content =>
      if content.length ≤ room then
        let (fires, more) := bufferBody (room - content.length) rest
        (fires, more.map (·.map (content ++ ·)))
      else ([], some (.error .tooLong))
    | .fail error => ([], some (.error (.failed error.message)))
    | .cancel token =>
      let (fires, more) := bufferBody room rest
      (token :: fires, more)
    | .stall token => ([token], none)
    | .pause => bufferBody room rest
    | .nothing => ([], some (.ok []))

/-- A body as the source of a new file. All its failures are final. -/
def bodySource (body : Source) : Source :=
  body.map fun
    | .fail error => .fail { error with kind := .other }
    | event => event

/-! ## Handlers -/

/-- What a handler makes: a response, or a failure that is sent as one. -/
abbrev Handled := Except ApiError Response

/-- Sends what a handler made. -/
def Handled.response : Handled → Response
  | .ok r => r
  | .error e => e.response

/-- Reads the id of a file. -/
def fileId (raw : String) : Except ApiError Uuid :=
  match Uuid.parse? raw with
  | some id => .ok id
  | none => .error (.badRequest "not valid file id")

/-- Keeps the body as a new file. -/
def upload (shutdown : Token) (body : Source) : Program Handled := do
  match ← Storage.save shutdown (bodySource body) with
  | .ok id => return .ok (.json 201 (Text.jsonObject [("id", Text.jsonString id.text)]))
  | .error e => return .error (.ofStorage e)

/-- The range that a request asks for in a file of `size` bytes. A header that is no visible ASCII is
ignored. -/
def requestedRange (r : Request) (size : Nat) : Option ByteRange :=
  ((r.header? "range").filter isVisibleAscii).bind (ByteRange.parse? · size)

/-- The headers that all content is sent with. -/
def contentHeaders : List (String × String) :=
  [("content-type", "application/octet-stream"), ("accept-ranges", "bytes")]

/-- The bytes from `first` to `last` of a file. -/
def sendSpan (file : StoredFile) (size first last : Nat) : Handled :=
  if maxPosition < (first : Int) then .error (.badRequest "range start out of bounds")
  else
    match file.reader.seek first .start with
    | (.error e, _) => .error (.ofStorage e)
    | (.ok _, reader) =>
      let length := last - first + 1
      .ok ⟨206, contentHeaders ++
        [("content-length", toString length),
          ("content-range", s!"bytes {first}-{last}/{size}")],
        .stream (reader.stream (some length))⟩

/-- The content of an open file, as a request asks for it. -/
def sendContent (r : Request) (file : StoredFile) : Handled :=
  let size := file.info.size.toNat
  match requestedRange r size with
  | some .unsatisfiable =>
    .ok ((Response.empty 416).withHeaders [("content-range", s!"bytes */{size}")])
  | some (.span first last) => sendSpan file size first last
  | none =>
    .ok ⟨200, contentHeaders ++ [("content-length", toString size)],
      .stream (file.reader.stream none)⟩

/-- Sends the content of a file. -/
def download (shutdown : Token) (r : Request) (raw : String) : Program Handled :=
  match fileId raw with
  | .error e => return .error e
  | .ok id => do
    match ← Storage.open shutdown id with
    | .error e => return .error (.ofStorage e)
    | .ok file => return sendContent r file

/-- What is sent about a file. -/
def infoText (i : FileInfo) : String :=
  Text.jsonObject
    [("id", Text.jsonString i.id.text),
      ("size", toString i.size),
      ("metadata", match i.metadata with
        | some data => Text.jsonString (Text.base64 data)
        | none => "null"),
      ("created_at", Text.jsonString i.createdAt.text),
      ("updated_at", Text.jsonString i.updatedAt.text)]

/-- Sends what is known about a file. -/
def info (shutdown : Token) (raw : String) : Program Handled :=
  match fileId raw with
  | .error e => return .error e
  | .ok id => do
    match ← Storage.open shutdown id with
    | .error e => return .error (.ofStorage e)
    | .ok file => return .ok (.json 200 (infoText file.info))

/-- Replaces the metadata of a file by the body, which is taken into memory before the id is read. No response
is made to a body that stalls for good: a wait for a token that nobody holds has no end. -/
def replaceMetadata (raw : String) (body : Source) : Program Handled := do
  let (fires, content) := bufferBody bodyLimit body
  Program.fire fires
  match content with
  | none =>
    Program.wait .own
    return .error .internal
  | some (.error e) => return .ok e.response
  | some (.ok data) =>
    match fileId raw with
    | .error e => return .error e
    | .ok id =>
      match ← Storage.setMetadata id data with
      | .error e => return .error (.ofStorage e)
      | .ok () => return .ok (.empty 204)

/-- Removes a file. -/
def remove (raw : String) : Program Handled :=
  match fileId raw with
  | .error e => return .error e
  | .ok id => do
    match ← Storage.delete id with
    | .error e => return .error (.ofStorage e)
    | .ok () => return .ok (.empty 204)

/-! ## Routing -/

/-- Decodes the id in a path and hands it on. -/
def withId (raw : String) (handle : String → Program Handled) : Program Handled :=
  match Text.percentDecode? raw with
  | some id => handle id
  | none => return .ok (.plain 400 "Invalid URL: Invalid UTF-8 in `id`")

/-- Handles a request whose route answers to its method. -/
def handle (shutdown : Token) (r : Request) (route : Route) (verb : Verb) : Program Handled :=
  match route with
  | .health => return .ok (.json 200 (Text.jsonObject [("status", Text.jsonString "ok")]))
  | .metrics => return .ok ⟨200, [("content-type", "text/plain; charset=utf-8")], .counters⟩
  | .files => upload shutdown r.body
  | .file raw =>
    withId raw fun id => if verb = .delete then remove id else download shutdown r id
  | .info raw => withId raw (info shutdown)
  | .metadata raw => withId raw fun id => replaceMetadata id r.body

/-- The response to a request whose path is served: `405` unless the route answers to the method. -/
def serveRoute (shutdown : Token) (r : Request) (route : Route) : Program Response := do
  match (Verb.ofName? r.method).filter (· ∈ route.verbs) with
  | none => return (Response.empty 405).withHeaders [("allow", route.allow)]
  | some verb =>
    let response := (← handle shutdown r route verb).response
    return if verb = .head then response.withoutBody else response

/-- What a preflight response says about the methods of a route. -/
def allowHeaders : Option Route → List (String × String)
  | some route => [("allow", route.allow)]
  | none => []

/-- The response to any request. -/
def respond (shutdown : Token) (r : Request) : Program Response :=
  let route := Route.ofPath? r.path
  if r.method = "OPTIONS" then return (Cors.preflight r).withHeaders (allowHeaders route)
  else do
    let response ← match route with
      | some route => serveRoute shutdown r route
      | none => pure (Response.empty 404)
    return response.withHeaders (Cors.headers r)

end ChunkVault.Http
