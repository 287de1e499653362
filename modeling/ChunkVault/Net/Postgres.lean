/-
# ChunkVault.Net.Postgres -- how to reach a database of PostgreSQL, from its URL

The URL names the host, the user and the database, and its query holds further options. Each of them is read
in turn, and the first that makes no sense ends it. An option that is not known is passed over, and
reported.
-/
import ChunkVault.Net.Url
import ChunkVault.Text.Printable

namespace ChunkVault.Net.Postgres

/-- Why a text is no number of an option. -/
inductive NumberError where
  | empty
  | notADigit
  | tooLarge
deriving DecidableEq

/-- The text of an error. -/
def NumberError.message : NumberError → String
  | .empty => "cannot parse integer from empty string"
  | .notADigit => "invalid digit found in string"
  | .tooLarge => "number too large to fit in target type"

/-- Why an option makes no sense. -/
inductive OptionError where
  /-- A part of the URL stands for bytes that are no text. -/
  | notText (e : Text.Utf8Error)
  | badNumber (e : NumberError)
  | badAddress
  | unknownSslMode (value : String)
deriving DecidableEq

/-- The text of an error. -/
def OptionError.message : OptionError → String
  | .notText e => e.message
  | .badNumber e => e.message
  | .badAddress => "invalid IP address syntax"
  | .unknownSslMode value =>
    "error with configuration: unknown value " ++ Text.quoted value ++ " for `ssl_mode`"

/-- Adds a digit to a number of at most `limit`. -/
def addDigit (limit n : Nat) (c : Char) : Except NumberError Nat :=
  if !Text.isDigit c then .error .notADigit
  else if limit < 10 * n + Text.digitValue c then .error .tooLarge
  else .ok (10 * n + Text.digitValue c)

/-- Reads a number of at most `limit`. -/
def number (limit : Nat) (text : String) : Except OptionError Nat :=
  let read : Except NumberError Nat := match text.toList with
    | [] => .error .empty
    | ['+'] => .error .notADigit
    | cs => (Text.dropPlus cs).foldlM (addDigit limit) 0
  read.mapError .badNumber

/-- The names of the ways in which a connection can be secured. -/
def sslModes : List String := ["disable", "allow", "prefer", "require", "verify-ca", "verify-full"]

/-- Options that take any text. -/
def textOptions : List String :=
  ["sslrootcert", "ssl-root-cert", "ssl-ca", "sslcert", "ssl-cert", "sslkey", "ssl-key", "host", "dbname",
    "user", "password", "application_name", "options"]

/-- Reads an option of the query; the answer says whether it is known. -/
def option (name value : String) : Except OptionError Bool :=
  if name = "sslmode" ∨ name = "ssl-mode" then
    if String.ofList (value.toList.map Char.toLower) ∈ sslModes then .ok true
    else .error (.unknownSslMode value)
  else if name = "statement-cache-capacity" then (number Text.maxWord64 value).map fun _ => true
  else if name = "port" then (number Text.maxWord16 value).map fun _ => true
  else if name = "hostaddr" then
    if (ipv4? value.toList).isSome ∨ (ipv6? value.toList).isSome then .ok true else .error .badAddress
  else .ok (name ∈ textOptions || "options[".toList.isPrefixOf name.toList)

/-- Makes sure that a part of a URL stands for a text. -/
def text (part : List Char) : Except OptionError Unit :=
  match Text.utf8Error? (Text.percentBytes part) with
  | some e => .error (.notText e)
  | none => .ok ()

/-- Reads the parts of a URL in front of its query. A host that begins with a slash is the path of a
socket. -/
def parts (url : Url) : Except OptionError Unit := do
  if (Text.percentBytes url.authority.host).head? = some 0x2F then text url.authority.host
  text url.authority.username
  text url.authority.password
  text (url.path.dropWhile (· = '/'))

/-- Options that are not known, with their values. -/
abbrev Unknown := List (String × String)

/-- Reads the options of a query. -/
def options : List (String × String) → Unknown × Except OptionError Unit
  | [] => ([], .ok ())
  | (name, value) :: rest =>
    match option name value with
    | .error e => ([], .error e)
    | .ok isKnown =>
      let (unknown, result) := options rest
      (if isKnown then unknown else (name, value) :: unknown, result)

/-- Reads all that a URL says about a database. The options that are not known come first. -/
def check (url : Url) : Unknown × Except OptionError Unit :=
  match parts url with
  | .error e => ([], .error e)
  | .ok () => options url.parameters

end ChunkVault.Net.Postgres
