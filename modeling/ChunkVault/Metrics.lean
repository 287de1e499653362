/-
# ChunkVault.Metrics -- how often each operation ran, and how often it failed

Every operation is timed, whatever its end; the number of timings is its duration count. Its error
count rises when it ends in an error, and the end of a stream is none.
-/

namespace ChunkVault

/-- The operations that are counted. -/
inductive Method where
  | delete
  | fetchChunk
  | «open»
  | save
  | setMetadata
deriving DecidableEq

namespace Method

/-- All of them, in the order of their labels. -/
def all : List Method := [delete, fetchChunk, «open», save, setMetadata]

/-- The label that a counter carries. -/
def label : Method → String
  | delete => "delete"
  | fetchChunk => "fetch_chunk"
  | «open» => "open"
  | save => "save"
  | setMetadata => "set_metadata"

end Method

/-- The two counters of every operation. -/
structure Metrics where
  durations : Method → Nat
  errors : Method → Nat

namespace Metrics

/-- Nothing has run yet. -/
def zero : Metrics := ⟨fun _ => 0, fun _ => 0⟩

/-- Counts one run of an operation. -/
def record (m : Metrics) (method : Method) (failed : Bool) : Metrics where
  durations x := if x = method then m.durations x + 1 else m.durations x
  errors x := if x = method ∧ failed then m.errors x + 1 else m.errors x

/-- The lines of one counter, without those that stand at zero. -/
def family (name : String) (count : Method → Nat) : List String :=
  (Method.all.filter fun x => count x ≠ 0).map fun x =>
    name ++ "\x7bmethod=\"" ++ x.label ++ "\"\x7d " ++ toString (count x)

/-- The counters that have moved, in the order of their names. -/
def lines (m : Metrics) : List String :=
  family "file_storage_op_duration_seconds_count" m.durations ++
    family "file_storage_op_errors_total" m.errors

end Metrics
end ChunkVault
