/-
# ChunkVault.Launch -- starting the server from the command line

The settings are loaded, the server is started, and each step is reported. The variables of the `.env` file
are set before anything is reported, so that they decide about the reports too.
-/
import ChunkVault.Config.Load
import ChunkVault.Log.Filter
import ChunkVault.Startup

namespace ChunkVault

open Log (Event Level)

/-- How starting the server ends. -/
inductive Outcome where
  /-- Nothing stands in the way of serving with some settings. -/
  | ready (settings : Config.Settings)
  /-- There are no settings, or there can be no server with them. -/
  | failed
  /-- The filter for the reports cannot be cut into its parts, so that nothing is tried. -/
  | unreportable
deriving DecidableEq

/-- The exit code: only a server that can serve does not end at once with a failure. -/
def Outcome.exitCode : Outcome → UInt32
  | ready _ => 0
  | failed => 1
  | unreportable => 101

/-- What starting the server leads to. -/
structure Launch where
  /-- The lines that are written. -/
  lines : List String
  outcome : Outcome
deriving DecidableEq

namespace Launch

/-- The version of the program. -/
def version : String := "0.1.0"

/-! ## Events -/

/-- An event of the server, with its kind. -/
def event (level : Level) (kind message : String) (fields : List (String × Log.FieldValue)) : Event :=
  ⟨level, "server", message, [("service", .string "server"), ("event", .string kind)] ++ fields⟩

/-- Reports are possible. -/
def reporting : Event := event .info "logger_init" "tracing subscriber initialized" []

/-- There are no settings. -/
def misconfigured (e : Config.LoadError) : Event :=
  event .error "config_invalid" "failed to load configuration" [("error", .shown e.message)]

/-- There are settings. -/
def starting (s : Config.Settings) : Event :=
  event .info "start" "file storage service starting"
    [("service_id", .varying), ("pid", .varying), ("version", .string version),
      ("threads", .number (s.server.workerThreads.getD 0).toNat)]

/-- An option of the connection string is passed over. -/
def passedOver (option : String × String) : Event :=
  ⟨.warn, "sqlx_postgres::options::parse", "ignoring unrecognized connect parameter",
    [("key", .shown option.1), ("value", .shown option.2)]⟩

/-- The server did not start. -/
def failedWith (e : StartupError) : Event :=
  event .error "run_failed" "server::run returned error" [("error", .shown e.message)]

/-- The events of a start, and how it ends. -/
def events (defaultUrl : String) : Except Config.LoadError Config.Settings → List Event × Outcome
  | .error e => ([reporting, misconfigured e], .failed)
  | .ok s =>
    let (options, result) := Startup.prepare defaultUrl s
    let first := [reporting, starting s] ++ options.map passedOver
    match result with
    | .error e => (first ++ [failedWith e], .failed)
    | .ok _ => (first, .ready s)

/-! ## Reports -/

/-- How the environment wants events to be written. -/
def format (env : Config.Environment) : Log.Format :=
  if env.get? "LOG_FORMAT" = some "json" then .json else .plain

/-- Which events the environment wants to be written. -/
def filter? (env : Config.Environment) : Option Log.Filter := Log.Filter.ofSetting? (env.get? "RUST_LOG")

/-- Starts the server in an environment, with the text of the `.env` file and a way to read files. -/
def start (read : String → Except Config.ReadError Bytes) (env : Config.Environment) (dotenv : String) :
    Launch :=
  let env := Config.Dotenv.apply env dotenv
  match filter? env with
  | none => ⟨[], .unreportable⟩
  | some filter =>
    let (events, outcome) := events (Connection.defaultUrl env) (Config.Settings.load read env dotenv)
    ⟨(events.filter filter.allows).map (format env).line, outcome⟩

end Launch
end ChunkVault
