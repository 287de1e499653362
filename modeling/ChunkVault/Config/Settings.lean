/-
# ChunkVault.Config.Settings -- what the server can be told, and when it makes sense

Settings are put in order in three steps: the server's part is completed or refused, a blank connection
string is replaced by the one of the environment, and the database's part is checked. A step that fails
is the last one; what the steps before it changed stays changed.
-/
import ChunkVault.Text.Blank

namespace ChunkVault.Config

/-- Where the server listens, and on how many threads it works. -/
structure ServerSettings where
  host : String
  port : UInt16
  workerThreads : Option UInt64
deriving DecidableEq

/-- How the database is reached. Times are whole seconds. -/
structure DatabaseSettings where
  url : String
  maxConnections : UInt32
  minConnections : UInt32
  connectTimeout : UInt64
  idleTimeout : UInt64
  maxLifetime : UInt64
  acquireTimeout : UInt64
  logStatements : Bool
deriving DecidableEq

/-- All settings. -/
structure Settings where
  server : ServerSettings
  database : DatabaseSettings
deriving DecidableEq

/-- The host that is used when none is given. -/
def defaultHost : String := "127.0.0.1"

/-- The number of worker threads that is used when none is given. -/
def defaultWorkerThreads : UInt64 := 4

/-- A server for this machine alone. -/
def ServerSettings.default : ServerSettings := ⟨defaultHost, 8080, some defaultWorkerThreads⟩

/-- A small pool, and no database yet. -/
def DatabaseSettings.default : DatabaseSettings where
  url := ""
  maxConnections := 10
  minConnections := 2
  connectTimeout := 30
  idleTimeout := 600
  maxLifetime := 3600
  acquireTimeout := 30
  logStatements := false

/-- Both parts by default. -/
def Settings.default : Settings := ⟨.default, .default⟩

/-- Why settings are refused. -/
inductive SettingsError where
  | noPort
  | noUrl
  | foreignUrl
  | emptyPool
  | invertedPool
  | noTime
deriving DecidableEq

/-- The text of a refusal. -/
def SettingsError.message : SettingsError → String
  | .noPort => "server.port must be within 1..=65535"
  | .noUrl => "database.url is empty; set it in config.toml or DATABASE_URL"
  | .foreignUrl => "database.url must start with postgresql:// or postgres://"
  | .emptyPool => "database.min_connections must be >= 1"
  | .invertedPool => "database.max_connections must be >= min_connections"
  | .noTime => "database timeouts must be positive seconds"

/-! ## The server's part -/

namespace ServerSettings

/-- A blank host is replaced by the default one. -/
def withHost (s : ServerSettings) : ServerSettings :=
  if Text.isBlankText s.host then { s with host := defaultHost } else s

/-- No workers, or a number that is not given, is replaced by the default number. -/
def withWorkers (s : ServerSettings) : ServerSettings :=
  match s.workerThreads with
  | none | some 0 => { s with workerThreads := some defaultWorkerThreads }
  | some _ => s

/-- Completes the settings; without a port they are refused before the workers are looked at. -/
def normalize (s : ServerSettings) : Except SettingsError Unit × ServerSettings :=
  let s := s.withHost
  if s.port = 0 then (.error .noPort, s) else (.ok (), s.withWorkers)

end ServerSettings

/-! ## The database's part -/

namespace DatabaseSettings

/-- The schemes of the databases that can be used, up to case. -/
def schemes : List (List Char) := ["postgresql://".toList, "postgres://".toList]

/-- Whether a connection string names a database that can be used. The schemes are ASCII, and no other
letter has one of theirs as its lower case, so folding ASCII letters is enough. -/
def hasKnownScheme (url : String) : Bool :=
  schemes.any fun scheme => scheme.isPrefixOf (url.toList.map Char.toLower)

/-- A blank connection string is replaced by the one of the environment, if that has any. -/
def withUrl (fallback : Option String) (d : DatabaseSettings) : DatabaseSettings :=
  if Text.isBlankText d.url then { d with url := fallback.getD d.url } else d

/-- What is wrong with the settings, if anything is. Neither the idle time nor the lifetime of a
connection is bounded below. -/
def fault? (d : DatabaseSettings) : Option SettingsError :=
  if Text.isBlankText d.url then some .noUrl
  else if !hasKnownScheme d.url then some .foreignUrl
  else if d.minConnections = 0 then some .emptyPool
  else if d.maxConnections < d.minConnections then some .invertedPool
  else if d.connectTimeout = 0 ∨ d.acquireTimeout = 0 then some .noTime
  else none

/-- Accepts the settings, or says what is wrong with them. -/
def validate (d : DatabaseSettings) : Except SettingsError Unit :=
  match d.fault? with
  | some e => .error e
  | none => .ok ()

end DatabaseSettings

/-! ## Both parts -/

/-- Puts settings in order; `fallback` is the connection string of the environment. The settings come
back as they stand when the last step is done. -/
def Settings.normalize (fallback : Option String) (s : Settings) : Except SettingsError Unit × Settings :=
  let (outcome, server) := s.server.normalize
  match outcome with
  | .error e => (.error e, { s with server := server })
  | .ok () =>
    let database := s.database.withUrl fallback
    (database.validate, ⟨server, database⟩)

end ChunkVault.Config
