/-
# ChunkVault.Toml.Document -- from the text of a document to its entries
-/
import ChunkVault.Toml.Number
import ChunkVault.Toml.Quoted
import ChunkVault.Toml.Table

namespace ChunkVault.Toml

/-! ## Values -/

/-- An item with blanks, line ends and comments around it. -/
def spaced {α : Type} (item : Scanner α) : Scanner α := fun cs =>
  (item (skipSpace cs)).map fun (a, rest) => (a, skipSpace rest)

/-- The items of an array, after its opening bracket; a comma may follow the last. -/
def arrayItems? (item : Scanner Value) : Scanner Value := fun cs =>
  let (items, rest) := match Scanner.sepBy? (spaced item) ',' cs with
    | some (items, ',' :: rest) => (items, rest)
    | some (items, rest) => (items, rest)
    | none => ([], cs)
  (Scanner.after? [']'] (skipSpace rest)).map fun rest => (.array items, rest)

/-- A key, an equals sign, and a value with blanks around it. -/
def pair? (item : Scanner Value) : Scanner ((List String × String) × Value) := fun cs => do
  let (key, cs) ← key? cs
  let cs ← Scanner.after? ['='] cs
  let (value, cs) ← item (skipBlanks cs)
  return ((key, value), skipBlanks cs)

/-- The entries of a table in braces, after its opening brace; no comma follows the last. -/
def tableItems? (item : Scanner Value) : Scanner Value := fun cs => do
  let (pairs, rest) := (Scanner.sepBy? (pair? item) ',' cs).getD ([], cs)
  let rest ← Scanner.after? ['\x7d'] (skipBlanks rest)
  let entries ← Entries.ofPairs? pairs
  return (.table .braces entries, rest)

/-- A value; `depth` is the number of arrays and tables that it may still open. -/
def value? : Nat → Scanner Value
  | _, '"' :: rest => (string? ('"' :: rest)).map fun (s, rest) => (.string s, rest)
  | _, '\'' :: rest => (string? ('\'' :: rest)).map fun (s, rest) => (.string s, rest)
  | depth + 1, '[' :: rest => arrayItems? (value? depth) rest
  | depth + 1, '\x7b' :: rest => tableItems? (value? depth) rest
  | _, 't' :: 'r' :: 'u' :: 'e' :: rest => some (.boolean true, rest)
  | _, 'f' :: 'a' :: 'l' :: 's' :: 'e' :: rest => some (.boolean false, rest)
  | _, cs => number? cs

/-! ## Statements -/

/-- A key in brackets, after the opening ones. -/
def header? (closing cs : List Char) : Option ((List String × String) × List Char) := do
  let (key, cs) ← key? cs
  let cs ← Scanner.after? closing cs
  return (key, cs)

/-- What stands on a line that is neither empty nor only a comment. -/
def statement? : Scanner Statement
  | '[' :: '[' :: cs =>
    (header? [']', ']'] cs).map fun ((path, key), rest) => (.element path key, rest)
  | '[' :: cs => (header? [']'] cs).map fun ((path, key), rest) => (.header path key, rest)
  | cs =>
    (pair? (value? (depthLimit - 1)) cs).map fun (((path, key), value), rest) =>
      (.entry path key value, rest)

/-- A line with its end. -/
def line? : Scanner (List Statement) := fun cs =>
  match lineEnd? cs with
  | some rest => some ([], rest)
  | none => do
    let (statement, rest) ← statement? (skipBlanks cs)
    let rest ← lineEnd? rest
    return ([statement], rest)

/-- The statements of a text. -/
def statements? (cs : List Char) : Option (List Statement) :=
  if cs.isEmpty then some []
  else
    match line? cs with
    | none => none
    | some (found, rest) =>
      if _h : rest.length < cs.length then (statements? rest).map (found ++ ·) else none
termination_by cs.length

/-- The text after a byte order mark. -/
def skipMark : List Char → List Char
  | '\uFEFF' :: rest => rest
  | cs => cs

/-- Reads a document. -/
def parse? (text : String) : Option Entries :=
  (statements? (skipMark text.toList)).bind Entries.ofStatements?

end ChunkVault.Toml
