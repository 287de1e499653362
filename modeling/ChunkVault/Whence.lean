/-
# ChunkVault.Whence -- the origins that a seek counts from
-/
import ChunkVault.StorageError

namespace ChunkVault

/-- Where a seek counts from. -/
inductive Whence where
  | start
  | current
  | fromEnd
deriving DecidableEq

/-- The origin for its number: 0 the start, 1 the current position, 2 the end. -/
def Whence.ofNumber (n : Int) : Except StorageError Whence :=
  if n = 0 then .ok .start
  else if n = 1 then .ok .current
  else if n = 2 then .ok .fromEnd
  else .error (.unexpectedWhence n)

end ChunkVault
