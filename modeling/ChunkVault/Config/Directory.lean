/-
# ChunkVault.Config.Directory -- files under a directory, and reading one by its path

A path is followed name by name. A name that is not there is missing, a file on the way is no directory,
and a name of more than 255 bytes is refused before it is looked up. What lies outside of the directory is
not known: of that only the directories are there that lead to a known file.
-/
import ChunkVault.Record
import ChunkVault.Text.Parts

namespace ChunkVault.Config

/-- Why a file cannot be read. -/
inductive ReadError where
  | missing
  | notADirectory
  | isADirectory
  | nameTooLong
  | notText
  /-- Any other reason, in the words of the system. -/
  | failed (message : String)
deriving DecidableEq

/-- The text of an error. -/
def ReadError.message : ReadError → String
  | .missing => "No such file or directory (os error 2)"
  | .notADirectory => "Not a directory (os error 20)"
  | .isADirectory => "Is a directory (os error 21)"
  | .nameTooLong => "File name too long (os error 36)"
  | .notText => "stream did not contain valid UTF-8"
  | .failed message => message

/-- What a name stands for. -/
inductive Node where
  | file (content : Bytes)
  | folder
deriving DecidableEq

/-- The known files and folders with their names, under the directory that relative paths begin in. -/
structure Directory where
  nodes : List (List String × Node)

namespace Directory

/-- The names that a path leads through; a dot leads nowhere. -/
def names (path : String) : List String :=
  ((Text.parts '/' path.toList).map String.ofList).filter fun name => name ≠ "" ∧ name ≠ "."

/-- A directory with the given paths in it. -/
def ofList (nodes : List (String × Node)) : Directory :=
  ⟨nodes.map fun (path, node) => (names path, node)⟩

/-- What some names lead to. Every name on the way to a known one is a folder. -/
def node? (d : Directory) (place : List String) : Option Node :=
  if place.isEmpty then some .folder
  else
    match d.nodes.lookup place with
    | some node => some node
    | none => if d.nodes.any fun (known, _) => place.isPrefixOf known then some .folder else none

/-- The greatest number of bytes of a name. -/
def maxName : Nat := 255

/-- What some names lead to outside of the directory, where nothing but folders above it is known. -/
def outside (names : List String) : Except ReadError Node :=
  match names.dropWhile (· = "..") with
  | [] => .ok .folder
  | name :: _ => .error (if maxName < name.utf8ByteSize then .nameTooLong else .missing)

/-- Follows names from a place, which is a folder. -/
def follow (d : Directory) : List String → List String → Except ReadError Node
  | _, [] => .ok .folder
  | place, name :: rest =>
    if name = ".." then
      if place.isEmpty then outside rest else follow d place.dropLast rest
    else if maxName < name.utf8ByteSize then .error .nameTooLong
    else
      match d.node? (place ++ [name]) with
      | none => .error .missing
      | some .folder => follow d (place ++ [name]) rest
      | some (.file content) => if rest.isEmpty then .ok (.file content) else .error .notADirectory

/-- The greatest number of bytes of a path. -/
def maxPath : Nat := 4095

/-- Reads the file at a path. -/
def read (d : Directory) (path : String) : Except ReadError Bytes :=
  if path.isEmpty then .error .missing
  else if maxPath < path.utf8ByteSize then .error .nameTooLong
  else
    let found := if path.startsWith "/" then outside (names path) else d.follow [] (names path)
    match found with
    | .error e => .error e
    | .ok .folder => .error .isADirectory
    | .ok (.file content) =>
      if path.endsWith "/" ∨ path.endsWith "/." then .error .notADirectory else .ok content

end Directory
end ChunkVault.Config
