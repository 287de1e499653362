/-
# ChunkVault.Toml.Table -- building tables from statements

A document is built with one table open. A header closes that table, which means to put it into its place,
and opens another. The tables that a header or a dotted key names on the way are made when they are
missing, and their origin keeps them from being defined twice.
-/
import ChunkVault.Toml.Value

namespace ChunkVault.Toml

namespace Entries

/-- The value of a key. -/
def find? (entries : Entries) (key : String) : Option Value := entries.lookup key

/-- The entries without those of a key. -/
def remove (entries : Entries) (key : String) : Entries := entries.filter (·.1 ≠ key)

/-- The entries with another value for a key that they hold; its place stays. -/
def replace (entries : Entries) (key : String) (value : Value) : Entries :=
  entries.map fun entry => if entry.1 = key then (key, value) else entry

/-- The entries with one more at the end, unless they hold the key. -/
def insertNew? (entries : Entries) (key : String) (value : Value) : Option Entries :=
  match entries.find? key with
  | some _ => none
  | none => some (entries ++ [(key, value)])

/-- Changes the table that a path leads to. Missing tables on the way are made. Of several tables under
one header the last is meant. A dotted key may not lead into a table that has a header of its own, and no
path leads through a value. -/
def update {α : Type} (dotted : Bool) (change : Origin → Entries → Option (α × Entries)) :
    List String → Origin → Entries → Option (α × Entries)
  | [], origin, entries => change origin entries
  | key :: path, _, entries =>
    match entries.find? key with
    | none =>
      let origin := if dotted then Origin.dotted else .implied
      (update dotted change path origin []).map fun (a, made) =>
        (a, entries ++ [(key, .table origin made)])
    | some (.table origin inner) =>
      if origin = .braces ∨ (dotted ∧ origin = .header) then none
      else
        (update dotted change path origin inner).map fun (a, inner) =>
          (a, entries.replace key (.table origin inner))
    | some (.tables elements) =>
      (elements.getLast?).bind fun last =>
        (update dotted change path .header last).map fun (a, last) =>
          (a, entries.replace key (.tables (elements.dropLast ++ [last])))
    | some _ => none

/-- Adds a key with its value. A dotted key has to end in a table that dotted keys made. -/
def assign? (entries : Entries) (path : List String) (key : String) (value : Value) : Option Entries :=
  let add (origin : Origin) (inner : Entries) : Option (Unit × Entries) :=
    if path.isEmpty ∨ origin = .dotted then (inner.insertNew? key value).map fun made => ((), made)
    else none
  (entries.update true add path .header).map (·.2)

/-- Takes out the table that a header opens: a table that is there already may only be implied. -/
def detach? (entries : Entries) (path : List String) (key : String) : Option (Entries × Entries) :=
  let take (_ : Origin) (inner : Entries) : Option (Entries × Entries) :=
    match inner.find? key with
    | none => some ([], inner)
    | some (.table .implied opened) => some (opened, inner.remove key)
    | some _ => none
  entries.update false take path .header

/-- Puts a table into its place. -/
def attach? (entries : Entries) (path : List String) (key : String) (table : Entries) : Option Entries :=
  let add (_ : Origin) (inner : Entries) : Option (Unit × Entries) :=
    (inner.insertNew? key (.table .header table)).map fun made => ((), made)
  (entries.update false add path .header).map (·.2)

/-- Puts a table behind the others under its header. -/
def push? (entries : Entries) (path : List String) (key : String) (table : Entries) : Option Entries :=
  let add (_ : Origin) (inner : Entries) : Option (Unit × Entries) :=
    match inner.find? key with
    | none => some ((), inner ++ [(key, .tables [table])])
    | some (.tables elements) => some ((), inner.replace key (.tables (elements ++ [table])))
    | some _ => none
  (entries.update false add path .header).map (·.2)

/-- The entries of a table in braces. -/
def ofPairs? (pairs : List ((List String × String) × Value)) : Option Entries :=
  pairs.foldlM (fun (entries : Entries) ((path, key), value) => entries.assign? path key value) []

end Entries

/-- Where the open table of a document belongs. -/
inductive Place where
  /-- It is the document itself. -/
  | top
  | table (path : List String) (key : String)
  | element (path : List String) (key : String)
deriving DecidableEq

/-- A document as far as it is built: the tables that are closed, and the open one. -/
structure Draft where
  closed : Entries
  place : Place
  opened : Entries

namespace Draft

/-- Nothing but the open document. -/
def empty : Draft := ⟨[], .top, []⟩

/-- The document with the open table put into its place. -/
def close? (d : Draft) : Option Entries :=
  match d.place with
  | .top => some d.opened
  | .table path key => d.closed.attach? path key d.opened
  | .element path key => d.closed.push? path key d.opened

/-- Takes in a statement. -/
def step? (d : Draft) : Statement → Option Draft
  | .entry path key value => (d.opened.assign? path key value).map fun opened => { d with opened := opened }
  | .header path key =>
    d.close?.bind fun document =>
      (document.detach? path key).map fun (opened, closed) => ⟨closed, .table path key, opened⟩
  | .element path key => d.close?.map fun document => ⟨document, .element path key, []⟩

end Draft

/-- The entries of a document. -/
def Entries.ofStatements? (statements : List Statement) : Option Entries :=
  (statements.foldlM Draft.step? Draft.empty).bind Draft.close?

end ChunkVault.Toml
