/-
# ChunkVault.Text.Parts -- cutting a text at separators, at blanks and at places

A place in a text is a number of bytes in UTF-8. Not every number is the place of a character, so that a cut
at a place can fail.
-/
import ChunkVault.Text.Blank

namespace ChunkVault.Text

/-- The parts of a text between separators; there is always one more than there are separators. -/
def parts (separator : Char) : List Char → List (List Char)
  | [] => [[]]
  | c :: rest =>
    match parts separator rest with
    | part :: others => if c = separator then [] :: part :: others else (c :: part) :: others
    | [] => [[]]

/-- The text before and after the first separator. -/
def splitAt? (separator : Char) (cs : List Char) : Option (List Char × List Char) :=
  match cs.dropWhile (· ≠ separator) with
  | _ :: after => some (cs.takeWhile (· ≠ separator), after)
  | [] => none

/-- Adds a character in front of the words of a text. -/
def wordStep (c : Char) (words : List (List Char)) : List (List Char) :=
  match words with
  | word :: others => if isBlank c then [] :: word :: others else (c :: word) :: others
  | [] => [[c]]

/-- The words of a text: what stands between its blanks. -/
def words (cs : List Char) : List (List Char) :=
  (cs.foldr wordStep [[]]).filter fun word => !word.isEmpty

/-! ## Places -/

/-- The number of bytes of a text. -/
def byteLength (cs : List Char) : Nat := cs.foldl (fun n c => n + c.utf8Size) 0

/-- The text without its first `n` bytes, unless a character lies across that place. -/
def dropBytes? (n : Nat) : List Char → Option (List Char)
  | [] => if n = 0 then some [] else none
  | c :: rest =>
    if n = 0 then some (c :: rest)
    else if c.utf8Size ≤ n then dropBytes? (n - c.utf8Size) rest
    else none

/-- The first `n` bytes of a text, unless a character lies across that place. -/
def takeBytes? (n : Nat) : List Char → Option (List Char)
  | [] => if n = 0 then some [] else none
  | c :: rest =>
    if n = 0 then some []
    else if c.utf8Size ≤ n then (takeBytes? (n - c.utf8Size) rest).map (c :: ·)
    else none

end ChunkVault.Text
