/-
# ChunkVault.Proofs.Http.Wording -- the texts of responses, letter for letter

What a client reads is said here without the functions that write it: the whole text of each object, with its
quotes, colons and commas, and the headers that announce it (`Reply.Tells`, `Reply.Confirms`). The ids of files and
the digits of base 64 have no character that needs an escape (`Uuid.text_unescaped`, `Text.base64_unescaped`), and so
they stand in their quotes as they are.
-/
import ChunkVault.Proofs.Http.Download

namespace ChunkVault

/-! ## Texts that need no escapes -/

namespace Text

/-- Not one of these characters has to be escaped. -/
def Unescaped (cs : List Char) : Prop := ∀ c ∈ cs, escape c = [c]

instance (cs : List Char) : Decidable (Unescaped cs) := List.decidableBAll (fun c => escape c = [c]) cs

/-- A text of such characters stands in its quotes as it is. -/
theorem Unescaped.jsonString {s : String} (h : Unescaped s.toList) : jsonString s = "\"" ++ s ++ "\"" := by
  have hescape : s.toList.flatMap escape = s.toList := by
    rw [List.flatMap_congr h, List.flatMap_singleton']
  rw [Text.jsonString, hescape]
  apply String.toList_injective
  rw [String.toList_ofList, String.toList_append, String.toList_append]
  rfl

theorem Unescaped.append {cs ds : List Char} (hcs : Unescaped cs) (hds : Unescaped ds) : Unescaped (cs ++ ds) :=
  List.forall_mem_append.mpr ⟨hcs, hds⟩

theorem Unescaped.take {cs : List Char} (h : Unescaped cs) (n : Nat) : Unescaped (cs.take n) :=
  fun c hc => h c (List.mem_of_mem_take hc)

theorem Unescaped.drop {cs : List Char} (h : Unescaped cs) (n : Nat) : Unescaped (cs.drop n) :=
  fun c hc => h c (List.mem_of_mem_drop hc)

theorem hexDigit_unescaped {n : Nat} (h : n < 16) : escape (hexDigit n) = [hexDigit n] := by
  revert n
  decide

theorem toHex_unescaped (width n : Nat) : Unescaped (toHex width n) := by
  intro c hc
  obtain ⟨i, -, rfl⟩ := List.mem_map.mp hc
  exact hexDigit_unescaped (Nat.mod_lt _ (by decide))

theorem base64Digit_unescaped {n : Nat} (h : n < 64) : escape (base64Digit n) = [base64Digit n] := by
  revert n
  decide

theorem base64Group_unescaped (n : Nat) : Unescaped (base64Group n) := by
  have hdigit (m : Nat) : escape (base64Digit (m % 64)) = [base64Digit (m % 64)] :=
    base64Digit_unescaped (Nat.mod_lt m (by decide))
  simp only [Unescaped, base64Group, List.forall_mem_cons]
  exact ⟨hdigit _, hdigit _, hdigit _, hdigit _, List.forall_mem_nil _⟩

theorem base64_unescaped (content : Bytes) : Unescaped (base64 content).toList := by
  rw [base64, String.toList_ofList]
  fun_induction base64Digits content with
  | case1 a b c rest ih => exact (base64Group_unescaped _).append ih
  | case2 a b => exact ((base64Group_unescaped _).take 3).append (by decide)
  | case3 a => exact ((base64Group_unescaped _).take 2).append (by decide)
  | case4 => exact nofun

end Text

theorem Uuid.text_unescaped (id : Uuid) : Text.Unescaped id.text.toList := by
  have hdigits : Text.Unescaped id.digits := Text.toHex_unescaped 32 _
  have hhyphen : Text.Unescaped ['-'] := by decide
  rw [Uuid.text, String.toList_ofList]
  -- the groups of digits, with a hyphen in front of all but the first
  have hgroups := (hdigits.take 8).append <| hhyphen.append <| ((hdigits.drop 8).take 4).append <|
    hhyphen.append <| ((hdigits.drop 12).take 4).append <| hhyphen.append <| ((hdigits.drop 16).take 4).append <|
    hhyphen.append (hdigits.drop 20)
  simpa only [hyphenate, List.append_assoc, List.cons_append, List.nil_append] using hgroups

namespace Http

/-! ## What a client reads -/

/-- What a client receives, and what a bench notes meanwhile. -/
structure Reply where
  response : Response
  /-- The pieces of the body, and the error that it ends with, if any. -/
  got : List Bytes × Option StorageError
  noted : List JournalEntry

/-- All that a client is sent is this status, these headers beside those for pages of other origins, and this
text. -/
structure Reply.Carries (x : Reply) (r : Request) (status : Nat) (headers : List (String × String))
    (text : String) : Prop where
  status : x.response.status = status
  headers : x.response.headers = headers ++ Cors.headers r
  body : x.response.body = .text text
  received : x.got = ([text.toUTF8.data.toList], none)

/-- A client is sent a text of JSON. -/
def Reply.Tells (x : Reply) (r : Request) (status : Nat) (text : String) : Prop :=
  x.Carries r status [("content-type", "application/json"), ("content-length", toString text.utf8ByteSize)] text

/-- A client is told that all is done, and nothing beside. -/
def Reply.Confirms (x : Reply) (r : Request) : Prop := x.Carries r 204 [("content-length", "0")] ""

/-- The id of a new file. -/
def idWording (id : Uuid) : String := "\x7b\"id\":\"" ++ id.text ++ "\"\x7d"

/-- Metadata that were never set are not those that were set to nothing at all. -/
def metadataWording : Option Bytes → String
  | none => "null"
  | some data => "\"" ++ Text.base64 data ++ "\""

/-- What is known about a file. -/
def infoWording (id : Uuid) (size : Nat) (metadata : Option Bytes) (made changed : Timestamp) : String :=
  "\x7b\"id\":\"" ++ id.text ++ "\",\"size\":" ++ toString size ++ ",\"metadata\":" ++ metadataWording metadata ++
    ",\"created_at\":" ++ Text.jsonString made.text ++ ",\"updated_at\":" ++ Text.jsonString changed.text ++ "\x7d"

/-- What has gone wrong. -/
def errorWording (message : String) : String := "\x7b\"error\":\"" ++ message ++ "\"\x7d"

/-! ## What is written -/

theorem idText_eq (id : Uuid) : Text.jsonObject [("id", Text.jsonString id.text)] = idWording id := by
  rw [id.text_unescaped.jsonString]
  apply String.toList_injective
  simp (disch := decide) [Text.jsonObject, idWording, Text.Unescaped.jsonString]

theorem infoText_eq (id : Uuid) (size : Nat) (metadata : Option Bytes) (made changed : Timestamp) :
    infoText ⟨id, size, metadata, made, changed⟩ = infoWording id size metadata made changed := by
  have hmetadata : infoText ⟨id, size, metadata, made, changed⟩ = Text.jsonObject
      [("id", Text.jsonString id.text), ("size", toString size), ("metadata", metadataWording metadata),
        ("created_at", Text.jsonString made.text), ("updated_at", Text.jsonString changed.text)] := by
    cases metadata with
    | none => rfl
    | some data =>
      rw [metadataWording, ← (Text.base64_unescaped data).jsonString]
      rfl
  rw [hmetadata, id.text_unescaped.jsonString]
  unfold infoWording
  -- only the names of the fields are still to be quoted
  generalize Text.jsonString made.text = madeText
  generalize Text.jsonString changed.text = changedText
  apply String.toList_injective
  simp (disch := decide) [Text.jsonObject, Text.Unescaped.jsonString]

theorem ApiError.body_eq {e : ApiError} (h : Text.Unescaped e.message.toList) : e.body = errorWording e.message := by
  rw [body, h.jsonString]
  apply String.toList_injective
  simp (disch := decide) [Text.jsonObject, errorWording, Text.Unescaped.jsonString]

namespace Reply

variable {x : Reply} {r : Request} {status : Nat} {text : String}

/-- The pieces that are received are the text that is sent, if it is a text. -/
def Received (x : Reply) : Prop := ∀ text, x.response.body = .text text → x.got = ([text.toUTF8.data.toList], none)

theorem carries_of_text {headers : List (String × String)}
    (hresponse : x.response = (Response.mk status headers (.text text)).withHeaders (Cors.headers r))
    (hgot : x.Received) : x.Carries r status headers text := by
  have hbody : x.response.body = .text text := congrArg Response.body hresponse
  exact ⟨congrArg Response.status hresponse, congrArg Response.headers hresponse, hbody, hgot text hbody⟩

theorem tells_of_json (hresponse : x.response = (Response.json status text).withHeaders (Cors.headers r))
    (hgot : x.Received) : x.Tells r status text := carries_of_text hresponse hgot

/-- What a client is told whose upload was kept. -/
theorem tells_id {id : Uuid}
    (hresponse : x.response =
      (Response.json 201 (Text.jsonObject [("id", Text.jsonString id.text)])).withHeaders (Cors.headers r))
    (hgot : x.Received) : x.Tells r 201 (idWording id) := by
  rw [idText_eq] at hresponse
  exact tells_of_json hresponse hgot

/-- What a client is told who asks about a file. -/
theorem tells_info {id : Uuid} {size : Nat} {metadata : Option Bytes} {made changed : Timestamp}
    (hresponse : x.response =
      (Response.json 200 (infoText ⟨id, size, metadata, made, changed⟩)).withHeaders (Cors.headers r))
    (hgot : x.Received) : x.Tells r 200 (infoWording id size metadata made changed) := by
  rw [infoText_eq] at hresponse
  exact tells_of_json hresponse hgot

theorem tells_of_error {e : ApiError} (hresponse : x.response = e.response.withHeaders (Cors.headers r))
    (hgot : x.Received) (hunescaped : Text.Unescaped e.message.toList) :
    x.Tells r e.status (errorWording e.message) := by
  rw [ApiError.response, ApiError.body_eq hunescaped] at hresponse
  exact tells_of_json hresponse hgot

/-- What a client is told of a file that is not there. -/
theorem tells_missing
    (hresponse : x.response = (ApiError.ofStorage .notFound).response.withHeaders (Cors.headers r))
    (hgot : x.Received) : x.Tells r 404 (errorWording "not found") :=
  tells_of_error hresponse hgot (by decide)

theorem confirms_of_empty (hresponse : x.response = (Response.empty 204).withHeaders (Cors.headers r))
    (hgot : x.Received) : x.Confirms r := carries_of_text hresponse hgot

end Reply
end Http
end ChunkVault
