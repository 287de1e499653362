/-
# ChunkVault.Sql.Script -- a database that answers from a script

The script holds the answers to the next statements. A statement for which it has none gets the usual
answer: an insert the row just written, a select no row, and any other statement one row touched. An
answer of the wrong shape counts as none. Everything that reaches the database is noted.
-/
import ChunkVault.Sql.Database

namespace ChunkVault.Sql

/-- An answer in a script. -/
inductive ScriptAnswer where
  /-- The usual answer. -/
  | usual
  | reply (reply : Reply)
  | fail (error : DbError)
deriving DecidableEq

/-- What reached the database. -/
inductive LogEntry where
  | begun
  | committed
  | rolledBack
  | dropped
  | statement (s : Statement)
deriving DecidableEq

/-- A database that answers from a script. -/
structure Script where
  answers : List ScriptAnswer
  /-- What reached the database, the oldest first. -/
  log : List LogEntry
deriving DecidableEq

namespace Script

/-- Nothing scripted, nothing noted. -/
def empty : Script := ⟨[], []⟩

/-- The usual answer to a statement. -/
def usual : Statement → Reply
  | .insertFile f => .rows [fileRow f]
  | .insertChunk c createdAt updatedAt => .rows [chunkRow c createdAt updatedAt]
  | .selectFile _ | .selectBytes _ => .rows []
  | _ => .affected 1

/-- Whether a reply has the shape that a statement calls for. -/
def fits (s : Statement) : Reply → Bool
  | .rows _ => s.isQuery
  | .affected _ => !s.isQuery

/-- The answer to a statement, by what the script holds for it. -/
def answer (s : Statement) : Option ScriptAnswer → Except DbError Reply
  | some (.fail e) => .error e
  | some (.reply r) => .ok (if fits s r then r else usual s)
  | some .usual | none => .ok (usual s)

/-- Notes something that reached the database. -/
def note (d : Script) (entry : LogEntry) : Script := { d with log := d.log ++ [entry] }

/-- Takes a command. -/
def execute : Database Script
  | .begin _, d => (.ok (.affected 0), d.note .begun)
  | .commit _, d => (.ok (.affected 0), d.note .committed)
  | .rollback _, d => (.ok (.affected 0), d.note .rolledBack)
  | .discard _, d => (.ok (.affected 0), d.note .dropped)
  | .run _ s, d => (answer s d.answers.head?, { d.note (.statement s) with answers := d.answers.tail })

end Script
end ChunkVault.Sql
