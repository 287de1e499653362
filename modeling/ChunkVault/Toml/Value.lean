/-
# ChunkVault.Toml.Value -- what a TOML document holds
-/
import ChunkVault.Text.Binary64

namespace ChunkVault.Toml

/-- How a table came to be. It decides what may still be added to the table. -/
inductive Origin where
  /-- Under a header of its own, or as the document itself. -/
  | header
  /-- Because a header for a table further down names it on the way. -/
  | implied
  /-- Because a dotted key names it on the way. -/
  | dotted
  /-- In braces, as a value. -/
  | braces
deriving DecidableEq

/-- A value. The entries of a table are in the order of the document. -/
inductive Value where
  | string (s : String)
  | integer (n : Int)
  | float (x : Text.Binary64)
  | boolean (b : Bool)
  /-- A date, a time, or both, as it is written. -/
  | dateTime (text : String)
  | array (items : List Value)
  | table (origin : Origin) (entries : List (String × Value))
  /-- The tables under equal headers in double brackets. -/
  | tables (elements : List (List (String × Value)))

/-- The entries of a table, in the order of the document. -/
abbrev Entries := List (String × Value)

/-- A statement of a document. -/
inductive Statement where
  /-- A key, which is dotted if `path` is not empty, and its value. -/
  | entry (path : List String) (key : String) (value : Value)
  /-- A header in brackets. -/
  | header (path : List String) (key : String)
  /-- A header in double brackets. -/
  | element (path : List String) (key : String)

end ChunkVault.Toml
