/-
# ChunkVault.Main -- the server from the command line

Collects what a start depends on, which are variables and files, and writes what it reports. There is no
driver for a database here, so a server that is ready for its database ends there.
-/
import ChunkVault.Launch

namespace ChunkVault.Main

/-- The variables that a start depends on in any case. -/
def names : List String :=
  ["CONFIG_PATH", "SERVER_HOST", "SERVER_PORT", "TOKIO_WORKER_THREADS", "DATABASE_URL", "LOG_FORMAT",
    "RUST_LOG"]

/-- The values of variables. -/
def valuesOf (names : List String) : IO Config.Environment :=
  names.filterMapM fun name => do return (← IO.getEnv name).map fun value => (name, value)

/-- What the failure to read a file means. -/
def readError : IO.Error → Config.ReadError
  | .noFileOrDirectory .. => .missing
  | .inappropriateType _ code _ => if code = 21 then .isADirectory else .notADirectory
  | .invalidArgument .. => .nameTooLong
  | e => .failed (toString e)

/-- Reads a file. -/
def readFile (path : String) : IO (Except Config.ReadError Bytes) := do
  match ← (IO.FS.readBinFile path).toBaseIO with
  | .ok content => return .ok content.toList
  | .error e => return .error (readError e)

/-- Starts the server. -/
def run : IO UInt32 := do
  let dotenv := Config.Dotenv.textOf ((← readFile ".env").toOption.getD [])
  let env ← valuesOf (names ++ Config.Dotenv.mentioned dotenv)
  let config ← readFile (Config.Dotenv.apply env dotenv).configPath
  let launch := Launch.start (fun _ => config) env dotenv
  launch.lines.forM IO.println
  return launch.outcome.exitCode

end ChunkVault.Main

/-- Starts the server. -/
def main : IO UInt32 := ChunkVault.Main.run
