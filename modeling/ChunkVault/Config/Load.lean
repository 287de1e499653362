/-
# ChunkVault.Config.Load -- settings from a file, or from the environment when there is no file

The variables of a `.env` file come first, as far as the environment does not have them. If there is a file
at the configured path, it alone gives the settings; only when there is none are they taken from the
environment. A file that is there and cannot be read or understood is an error.
-/
import ChunkVault.Config.Decode
import ChunkVault.Config.Directory
import ChunkVault.Config.Dotenv

namespace ChunkVault.Config

/-- Why there are no settings. -/
inductive LoadError where
  /-- The file at a path cannot be read. -/
  | unreadable (path : String) (e : ReadError)
  /-- The file at a path does not give settings. -/
  | unparsable (path : String) (e : ParseError)
  /-- The settings make no sense. -/
  | invalid (e : SettingsError)
deriving DecidableEq

/-- The text of an error. Where in the file an error lies, and which, is not told. -/
def LoadError.message : LoadError → String
  | .unreadable path e => "config file " ++ path ++ ": " ++ e.message
  | .unparsable path _ => "config file " ++ path ++ ": TOML parse error"
  | .invalid e => e.message

namespace Settings

/-- The settings of a file. -/
def ofFile (path : String) (content : Bytes) : Except LoadError Settings :=
  match String.fromUTF8? (ByteArray.mk content.toArray) with
  | none => .error (.unreadable path .notText)
  | some text =>
    match Settings.parse text with
    | .ok s => .ok s
    | .error e => .error (.unparsable path e)

/-- The settings of the environment. The connection string is added when they are put in order. -/
def ofEnvironment (env : Environment) : Settings := ⟨ServerSettings.ofEnvironment env, .default⟩

/-- The settings of the file at the configured path, else those of the environment. -/
def ofFileOrEnvironment (read : String → Except ReadError Bytes) (env : Environment) :
    Except LoadError Settings :=
  match read env.configPath with
  | .ok content => ofFile env.configPath content
  | .error .missing => .ok (ofEnvironment env)
  | .error e => .error (.unreadable env.configPath e)

/-- Loads settings and puts them in order; the variables of `dotenv` are set before. -/
def load (read : String → Except ReadError Bytes) (env : Environment) (dotenv : String) :
    Except LoadError Settings :=
  let env := Dotenv.apply env dotenv
  match ofFileOrEnvironment read env with
  | .error e => .error e
  | .ok s =>
    match s.normalize env.databaseUrl? with
    | (.ok (), s) => .ok s
    | (.error e, _) => .error (.invalid e)

end Settings
end ChunkVault.Config
