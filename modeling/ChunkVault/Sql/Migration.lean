/-
# ChunkVault.Sql.Migration -- building the schema, and taking it down

The migrations run in the order of their names: first the tables, each after those it refers to, and the
index last. They are taken back in the opposite order, and either way the first that fails is the last
that runs.
-/
import ChunkVault.Sql.Database

namespace ChunkVault.Sql

/-- One step of building the schema. -/
structure Migration where
  name : String
  up : SchemaChange
  down : SchemaChange
deriving DecidableEq

/-- Which way the migrations run. -/
inductive Direction where
  | up
  | down
deriving DecidableEq

namespace Migration

/-- All migrations, in the order of their dependencies. -/
def all : List Migration :=
  [⟨"m20240101_000001_create_file", .createFileTable, .dropFileTable⟩,
    ⟨"m20240101_000002_create_chunk", .createChunkTable, .dropChunkTable⟩,
    ⟨"m20240101_000003_add_indexes", .createChunkIndex, .dropChunkIndex⟩]

/-- The migrations and their changes in the order that they run in. -/
def plan : Direction → List (String × SchemaChange)
  | .up => all.map fun m => (m.name, m.up)
  | .down => all.reverse.map fun m => (m.name, m.down)

/-- Runs changes until one fails; the answer names those that ran, the failing one included. -/
def runPlan {δ : Type} (db : Database δ) :
    List (String × SchemaChange) → δ → (List String × Option DbError) × δ
  | [], d => (([], none), d)
  | (name, change) :: rest, d =>
    match db (.run none (.schema change)) d with
    | (.error e, d) => (([name], some e), d)
    | (.ok _, d) =>
      let ((names, error), d) := runPlan db rest d
      ((name :: names, error), d)

/-- Runs all migrations one way. -/
def run {δ : Type} (db : Database δ) (direction : Direction) (d : δ) :
    (List String × Option DbError) × δ :=
  runPlan db (plan direction) d

end Migration
end ChunkVault.Sql
