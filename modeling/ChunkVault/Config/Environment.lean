/-
# ChunkVault.Config.Environment -- named variables, and the settings that they hold
-/
import ChunkVault.Config.Settings
import ChunkVault.Text.Decimal

namespace ChunkVault.Config

/-- Variables and their values; of several entries for one name the first counts. -/
abbrev Environment := List (String × String)

namespace Environment

/-- The value of a variable. -/
def get? (env : Environment) (name : String) : Option String := env.lookup name

/-- Sets a variable that has no value yet. -/
def setDefault (env : Environment) (name value : String) : Environment :=
  match env.get? name with
  | some _ => env
  | none => env ++ [(name, value)]

/-- The path of the configuration file. -/
def configPath (env : Environment) : String := (env.get? "CONFIG_PATH").getD "config.toml"

/-- The connection string. -/
def databaseUrl? (env : Environment) : Option String := env.get? "DATABASE_URL"

/-- The number that a variable holds, if it is at most `limit`. -/
def number? (env : Environment) (limit : Nat) (name : String) : Option Nat :=
  (env.get? name).bind fun value => Text.unsigned? limit value.toList

end Environment

/-- The settings of the server as the variables give them; what is absent or cannot be read takes its
default. -/
def ServerSettings.ofEnvironment (env : Environment) : ServerSettings where
  host := (env.get? "SERVER_HOST").getD ServerSettings.default.host
  port := ((env.number? Text.maxWord16 "SERVER_PORT").map UInt16.ofNat).getD ServerSettings.default.port
  workerThreads :=
    ((env.number? Text.maxWord64 "TOKIO_WORKER_THREADS").map UInt64.ofNat).orElse fun _ =>
      ServerSettings.default.workerThreads

end ChunkVault.Config
