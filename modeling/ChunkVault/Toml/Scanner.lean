/-
# ChunkVault.Toml.Scanner -- reading from the front of a text; blanks, comments and line ends

A scanner reads something from the front of a text and hands back the rest, or reads nothing and fails.
The documents are refused as a whole, so a failure carries no reason.
-/

namespace ChunkVault.Toml

/-- Reads from the front of a text. -/
abbrev Scanner (α : Type) := List Char → Option (α × List Char)

namespace Scanner

/-- The text after a fixed text. -/
def after? (word cs : List Char) : Option (List Char) :=
  if word.isPrefixOf cs then some (cs.drop word.length) else none

/-- The longest run of characters with a property, unless it is empty. -/
def run? (p : Char → Bool) : Scanner (List Char) := fun cs =>
  match cs.takeWhile p with
  | [] => none
  | run => some (run, cs.dropWhile p)

/-- Exactly `n` characters with a property. -/
def exactly? (n : Nat) (p : Char → Bool) : Scanner (List Char) := fun cs =>
  let run := cs.take n
  if run.length = n ∧ run.all p then some (run, cs.drop n) else none

/-- One or more items with separators between them. A separator that no item follows is not read. -/
def sepBy? {α : Type} (item : Scanner α) (separator : Char) (cs : List Char) :
    Option (List α × List Char) :=
  match item cs with
  | none => none
  | some (a, rest) =>
    let onward := rest.drop 1
    if _h : rest.head? = some separator ∧ onward.length < cs.length then
      match sepBy? item separator onward with
      | some (others, rest) => some (a :: others, rest)
      | none => some ([a], rest)
    else some ([a], rest)
termination_by cs.length
decreasing_by exact _h.2

end Scanner

/-! ## Blanks and lines -/

/-- A blank within a line. -/
def isBlank (c : Char) : Bool := c = ' ' || c = '\t'

/-- The text after blanks. -/
def skipBlanks (cs : List Char) : List Char := cs.dropWhile isBlank

/-- The text after the end of a line: a line feed, with or without a carriage return before it. -/
def newline? : List Char → Option (List Char)
  | '\n' :: rest => some rest
  | '\r' :: '\n' :: rest => some rest
  | _ => none

/-- A character that may stand in text as it is: no control character, a tab apart. -/
def isPlain (c : Char) : Bool := c = '\t' || (' ' ≤ c && c ≠ '\x7f')

/-- The text after a comment, if one begins here; its line end is not read. -/
def skipComment : List Char → List Char
  | '#' :: rest => rest.dropWhile isPlain
  | cs => cs

/-- The text after blanks and a comment, and the end of the line or of the text. -/
def lineEnd? (cs : List Char) : Option (List Char) :=
  match skipComment (skipBlanks cs) with
  | [] => some []
  | rest => newline? rest

/-- The text after blanks, line ends and comments. -/
def skipSpace : List Char → List Char
  | '\r' :: '\n' :: rest => skipSpace rest
  | '#' :: rest => skipSpace (rest.dropWhile isPlain)
  | c :: rest => if isBlank c || c = '\n' then skipSpace rest else c :: rest
  | [] => []
termination_by cs => cs.length
decreasing_by
  · simp only [List.length_cons]; omega
  · exact Nat.lt_succ_of_le (List.dropWhile_sublist _).length_le
  · simp

end ChunkVault.Toml
