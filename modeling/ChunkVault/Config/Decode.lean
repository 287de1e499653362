/-
# ChunkVault.Config.Decode -- settings from the entries of a document

Each part is decoded entry by entry, in the order of the document, and the first entry of the wrong shape is
the one that is reported. Entries with other names are skipped. Whatever is required and absent is
reported after that. A part may also be given as an array of its fields.
-/
import ChunkVault.Config.Settings
import ChunkVault.Text.Printable
import ChunkVault.Toml.Document

namespace ChunkVault.Config

open Toml (Value Entries)

/-- Why a document does not give settings. -/
inductive DecodeError where
  /-- A required field is absent. -/
  | missingField (name : String)
  /-- A value of another type; both are described. -/
  | invalidType (found expected : String)
  /-- A number that does not fit. -/
  | invalidValue (n : Int) (expected : String)
  /-- An array that ends before its field number `index`. -/
  | invalidLength (index : Nat) (expected : String)
deriving DecidableEq

/-- The text of an error. -/
def DecodeError.message : DecodeError → String
  | .missingField name => "missing field `" ++ name ++ "`"
  | .invalidType found expected => "invalid type: " ++ found ++ ", expected " ++ expected
  | .invalidValue n expected => "invalid value: integer `" ++ toString n ++ "`, expected " ++ expected
  | .invalidLength index expected => s!"invalid length {index}, expected " ++ expected

/-! ## Single values -/

/-- What a value is, for someone who expected something else. -/
def describe : Value → String
  | .string s => "string " ++ Text.quoted s
  | .integer n => "integer `" ++ toString n ++ "`"
  | .float x => "floating point `" ++ x.text ++ "`"
  | .boolean b => "boolean `" ++ (if b then "true" else "false") ++ "`"
  | .array _ | .tables _ => "sequence"
  | .table .. | .dateTime _ => "map"

/-- A string. -/
def decodeString : Value → Except DecodeError String
  | .string s => .ok s
  | v => .error (.invalidType (describe v) "a string")

/-- A truth value. -/
def decodeBool : Value → Except DecodeError Bool
  | .boolean b => .ok b
  | v => .error (.invalidType (describe v) "a boolean")

/-- A number from zero to `limit`; `name` is what its type is called. -/
def decodeNat (limit : Nat) (name : String) : Value → Except DecodeError Nat
  | .integer n => if 0 ≤ n ∧ n ≤ limit then .ok n.toNat else .error (.invalidValue n name)
  | v => .error (.invalidType (describe v) name)

/-- A number of 16 bits. -/
def decodeWord16 (v : Value) : Except DecodeError UInt16 :=
  (decodeNat Text.maxWord16 "u16" v).map UInt16.ofNat

/-- A number of 32 bits. -/
def decodeWord32 (v : Value) : Except DecodeError UInt32 :=
  (decodeNat Text.maxWord32 "u32" v).map UInt32.ofNat

/-- A number of 64 bits. -/
def decodeWord64 (v : Value) : Except DecodeError UInt64 :=
  (decodeNat Text.maxWord64 "u64" v).map UInt64.ofNat

/-- A number of things, which has 64 bits too. -/
def decodeCount (v : Value) : Except DecodeError UInt64 :=
  (decodeNat Text.maxWord64 "usize" v).map UInt64.ofNat

/-! ## Parts -/

/-- A field of a part of the settings. -/
structure Field (σ : Type) where
  name : String
  isRequired : Bool
  read : Value → σ → Except DecodeError σ

namespace Field

/-- A field with a decoder for its value and a way to set it. -/
def of {σ α : Type} (name : String) (isRequired : Bool) (decode : Value → Except DecodeError α)
    (set : σ → α → σ) : Field σ :=
  ⟨name, isRequired, fun v s => (decode v).map (set s)⟩

/-- Sets the fields that entries name, in the order of the entries. -/
def readEntries {σ : Type} (fields : List (Field σ)) (start : σ) (entries : Entries) :
    Except DecodeError σ :=
  entries.foldlM (fun s (name, value) =>
    match fields.find? fun f => f.name = name with
    | some f => f.read value s
    | none => .ok s) start

/-- Decodes entries; afterwards no required field may be absent. -/
def ofEntries {σ : Type} (fields : List (Field σ)) (start : σ) (entries : Entries) :
    Except DecodeError σ :=
  match readEntries fields start entries with
  | .error e => .error e
  | .ok s =>
    match fields.find? fun f => f.isRequired && (entries.find? f.name).isNone with
    | some f => .error (.missingField f.name)
    | none => .ok s

/-- Decodes items, one for each field; items beyond the fields are skipped. -/
def ofItems {σ : Type} (title : String) (count : Nat) :
    List (Field σ) → List Value → σ → Except DecodeError σ
  | [], _, s => .ok s
  | f :: fields, v :: items, s => (f.read v s).bind (ofItems title count fields items)
  | f :: fields, [], s =>
    if f.isRequired then
      .error (.invalidLength (count - fields.length - 1) s!"struct {title} with {count} elements")
    else ofItems title count fields [] s

/-- Decodes a part of the settings, which `title` names. A date has no fields that matter. -/
def decode {σ : Type} (title : String) (fields : List (Field σ)) (start : σ) :
    Value → Except DecodeError σ
  | .table _ entries => ofEntries fields start entries
  | .dateTime _ => ofEntries fields start []
  | .array items => ofItems title fields.length fields items start
  | .tables elements =>
    ofItems title fields.length fields (elements.map fun entries => .table .header entries) start
  | v => .error (.invalidType (describe v) ("struct " ++ title))

end Field

/-- The fields of the server's part. -/
def ServerSettings.fields : List (Field ServerSettings) :=
  [.of "host" true decodeString fun s host => { s with host := host },
    .of "port" true decodeWord16 fun s port => { s with port := port },
    .of "worker_threads" false decodeCount fun s n => { s with workerThreads := some n }]

/-- The fields of the database's part. -/
def DatabaseSettings.fields : List (Field DatabaseSettings) :=
  [.of "url" false decodeString fun d url => { d with url := url },
    .of "max_connections" false decodeWord32 fun d n => { d with maxConnections := n },
    .of "min_connections" false decodeWord32 fun d n => { d with minConnections := n },
    .of "connect_timeout_secs" false decodeWord64 fun d n => { d with connectTimeout := n },
    .of "idle_timeout_secs" false decodeWord64 fun d n => { d with idleTimeout := n },
    .of "max_lifetime_secs" false decodeWord64 fun d n => { d with maxLifetime := n },
    .of "acquire_timeout_secs" false decodeWord64 fun d n => { d with acquireTimeout := n },
    .of "sqlx_logging" false decodeBool fun d b => { d with logStatements := b }]

/-- Decodes the server's part; a number of workers that is not given stays open. -/
def ServerSettings.decode : Value → Except DecodeError ServerSettings :=
  Field.decode "ServerConfig" ServerSettings.fields ⟨"", 0, none⟩

/-- Decodes the database's part; all that is absent takes its default. -/
def DatabaseSettings.decode : Value → Except DecodeError DatabaseSettings :=
  Field.decode "DatabaseConfig" DatabaseSettings.fields .default

/-- The fields of a document. -/
def Settings.fields : List (Field Settings) :=
  [.of "server" false ServerSettings.decode fun s server => { s with server := server },
    .of "database" false DatabaseSettings.decode fun s database => { s with database := database }]

/-- Why the text of a document does not give settings. -/
inductive ParseError where
  /-- The text is no document. -/
  | grammar
  | decode (e : DecodeError)
deriving DecidableEq

/-- Reads settings; a part that is absent is taken by default. -/
def Settings.parse (text : String) : Except ParseError Settings :=
  match Toml.parse? text with
  | none => .error .grammar
  | some entries =>
    match Field.ofEntries Settings.fields .default entries with
    | .ok s => .ok s
    | .error e => .error (.decode e)

end ChunkVault.Config
