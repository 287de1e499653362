/-
# ChunkVault.Text.Ranges -- sets of characters, as ranges of their numbers
-/

namespace ChunkVault.Text

/-- Ranges of the numbers of characters, both ends included. -/
abbrev Ranges := List (Nat × Nat)

/-- Whether a character lies in one of some ranges. -/
def Ranges.has (ranges : Ranges) (c : Char) : Bool :=
  ranges.any fun (first, last) => first ≤ c.toNat && c.toNat ≤ last

end ChunkVault.Text
