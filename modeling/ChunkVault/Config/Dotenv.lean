/-
# ChunkVault.Config.Dotenv -- variables from the lines of a file

Each line gives a name, an equals sign and a value. A value may be quoted, and a quoted value may go on
over several lines; a dollar sign puts in the value of another variable. A comment begins at a number
sign that stands first or after a blank. The first line that cannot be read ends the file: the variables
before it count, and those after it do not.
-/
import ChunkVault.Config.Environment
import ChunkVault.Record
import ChunkVault.Text.Alphanumeric
import ChunkVault.Text.Parts

namespace ChunkVault.Config.Dotenv

/-! ## Lines that belong together -/

/-- What the characters so far leave open. -/
inductive Pending where
  | nothing
  /-- A blank, after which a number sign begins a comment. -/
  | blank
  /-- A backslash. -/
  | escape
  | strong
  | strongEscape
  | weak
  | weakEscape
deriving DecidableEq

/-- What is open after a character outside of quotes. -/
def Pending.plain (c : Char) : Pending :=
  if c = '\\' then .escape
  else if c = '"' then .weak
  else if c = '\'' then .strong
  else .nothing

/-- What is open after one more character; `none` if the character begins a comment. -/
def Pending.step? (c : Char) : Pending → Option Pending
  | .blank => if c = '#' then none else some (.plain c)
  | .escape => some .nothing
  | .nothing =>
    if Text.isBlank c ∧ c ≠ '\n' ∧ c ≠ '\r' then some .blank else some (.plain c)
  | .weak => some (if c = '\\' then .weakEscape else if c = '"' then .nothing else .weak)
  | .weakEscape => some .weak
  | .strong => some (if c = '\\' then .strongEscape else if c = '\'' then .nothing else .strong)
  | .strongEscape => some .strong

/-- Cuts a text into its lines, each with its line feed. -/
def physicalLines : List Char → List (List Char)
  | [] => []
  | c :: rest =>
    if c = '\n' then [c] :: physicalLines rest
    else
      match physicalLines rest with
      | line :: lines => (c :: line) :: lines
      | [] => [[c]]

/-- The characters of a line before a comment, and what is open after them; `none` if there is a comment,
so that nothing can be open. -/
def scanLine : Pending → List Char → List Char × Option Pending
  | p, [] => ([], some p)
  | p, c :: rest =>
    match p.step? c with
    | none => ([], none)
    | some p =>
      let (kept, after) := scanLine p rest
      (c :: kept, after)

/-- A text without the end of its last line. -/
def dropLineEnd (cs : List Char) : List Char :=
  match cs.reverse with
  | '\n' :: '\r' :: rest => rest.reverse
  | '\n' :: rest => rest.reverse
  | _ => cs

/-- Joins the lines that belong together. What the lines before leave open is `p`, and `soFar` are their
characters; whatever is still open at the end of the text cannot be read and is left out. -/
def joinLines : Pending → List Char → List (List Char) → List (List Char)
  | _, _, [] => []
  | p, soFar, line :: lines =>
    if (Text.trimFront (soFar ++ line)).head? = some '#' then [] :: joinLines .nothing [] lines
    else
      match scanLine p line with
      | (kept, none) => (soFar ++ kept) :: joinLines .nothing [] lines
      | (kept, some .nothing) => dropLineEnd (soFar ++ kept) :: joinLines .nothing [] lines
      | (kept, some p) => joinLines p (soFar ++ kept) lines

/-! ## Values -/

/-- Gives the value of a variable, if it has one. -/
abbrev Lookup := String → String

/-- Where in a value a character stands. -/
inductive Mode where
  | plain
  | strong
  /-- In the name of a variable, after the dollar sign; the name in braces if `inBraces`. -/
  | name (letters : List Char) (inBraces : Bool)
  /-- After the blanks that end a value. -/
  | ended
deriving DecidableEq

/-- A value as far as it is read. -/
structure ValueState where
  mode : Mode
  /-- Whether double quotes are open. -/
  isWeak : Bool
  isEscaped : Bool
  /-- The characters of the value, the last one first. -/
  output : List Char
deriving DecidableEq

namespace ValueState

/-- Nothing read yet. -/
def start : ValueState := ⟨.plain, false, false, []⟩

/-- One more character of the value. -/
def push (s : ValueState) (c : Char) : ValueState := { s with output := c :: s.output }

/-- Puts in the value of a variable and ends its name. -/
def substitute (lookup : Lookup) (s : ValueState) (letters : List Char) : ValueState :=
  { s with mode := .plain, output := (lookup (String.ofList letters)).toList.reverse ++ s.output }

/-- The character that a backslash and a character stand for. -/
def escaped? (c : Char) : Option Char :=
  if c = '\\' ∨ c = '\'' ∨ c = '"' ∨ c = '$' ∨ c = ' ' then some c
  else if c = 'n' then some '\n'
  else none

/-- Takes in a character that stands neither after a backslash nor in apostrophes nor in a name. -/
def stepPlain (s : ValueState) (c : Char) : ValueState :=
  if c = '$' then { s with mode := .name [] false }
  else if c = '\\' then { s with isEscaped := true }
  else if c = '"' then { s with isWeak := !s.isWeak }
  else if s.isWeak then s.push c
  else if c = '\'' then { s with mode := .strong }
  else if c = ' ' ∨ c = '\t' then { s with mode := .ended }
  else s.push c

/-- Takes in a character of a name. Outside of braces the first character that is neither a letter nor a
number ends the name, and stands for itself, a closing quote not excepted. -/
def stepName (lookup : Lookup) (s : ValueState) (letters : List Char) (inBraces : Bool) (c : Char) :
    ValueState :=
  if Text.isAlphanumeric c then { s with mode := .name (letters ++ [c]) inBraces }
  else if inBraces then
    if c = '\x7d' then s.substitute lookup letters else { s with mode := .name (letters ++ [c]) true }
  else if c = '\x7b' ∧ letters.isEmpty then { s with mode := .name [] true }
  else
    let s := s.substitute lookup letters
    if c = '$' then { s with mode := .name [] false } else s.push c

/-- Reads a value to its end. -/
def run? (lookup : Lookup) : ValueState → List Char → Option ValueState
  | s, [] => some s
  | s, c :: rest =>
    match s.mode with
    | .ended =>
      if c = ' ' ∨ c = '\t' then run? lookup s rest
      else if c = '#' then some s
      else none
    | .strong => run? lookup (if c = '\'' then { s with mode := .plain } else s.push c) rest
    | .name letters inBraces => run? lookup (s.stepName lookup letters inBraces c) rest
    | .plain =>
      if s.isEscaped then
        (escaped? c).bind fun x => run? lookup ({ s with isEscaped := false }.push x) rest
      else run? lookup (s.stepPlain c) rest

/-- The value that is read, unless quotes or braces are open. -/
def finish? (lookup : Lookup) (s : ValueState) : Option String :=
  let text (s : ValueState) := some (String.ofList s.output.reverse)
  if s.isWeak then none
  else
    match s.mode with
    | .strong | .name _ true => none
    | .name letters false => text (s.substitute lookup letters)
    | .plain | .ended => text s

end ValueState

/-- The value that some text stands for. -/
def value? (lookup : Lookup) (cs : List Char) : Option String :=
  (ValueState.start.run? lookup cs).bind (·.finish? lookup)

/-! ## Lines -/

/-- A character that a name may begin with. -/
def isNameStart (c : Char) : Bool := c.isAlpha || c = '_'

/-- A character of a name. -/
def isNamePart (c : Char) : Bool := c.isAlphanum || c = '_' || c = '.'

/-- The name at the front of a text, and the text after it and the blanks that follow. -/
def name? : List Char → Option (String × List Char)
  | [] => none
  | c :: rest =>
    if isNameStart c then
      some (String.ofList (c :: rest.takeWhile isNamePart), Text.trimFront (rest.dropWhile isNamePart))
    else none

/-- The text after an equals sign. -/
def afterEquals? : List Char → Option (List Char)
  | '=' :: rest => some rest
  | _ => none

/-- The name that a line gives a value to, and the text of the value. The word `export` may stand before
the name, or be it. -/
def assignment? (cs : List Char) : Option (String × List Char) := do
  let (name, rest) ← name? cs
  match afterEquals? rest with
  | some text => return (name, Text.trimFront text)
  | none =>
    if name = "export" then
      let (name, rest) ← name? rest
      let text ← afterEquals? rest
      return (name, Text.trimFront text)
    else none

/-- A line without a variable: an empty one, or a comment. -/
def isSilent (cs : List Char) : Bool := cs.isEmpty || cs.head? = some '#'

/-- The variables as far as they are read: those that are set, and the values that the lines gave. -/
structure Progress where
  environment : Environment
  /-- The last value for a name comes first. -/
  given : Environment

/-- What a name stands for in a value: the variable, else what a line above gave, else nothing. -/
def Progress.lookup (p : Progress) : Lookup := fun name =>
  ((p.environment.get? name).orElse fun _ => p.given.get? name).getD ""

/-- Takes in a line; `none` if it cannot be read. A variable that has a value keeps it. -/
def Progress.step? (p : Progress) (line : List Char) : Option Progress :=
  let cs := Text.trim line
  if isSilent cs then some p
  else do
    let (name, text) ← assignment? cs
    let value ← if isSilent text then some "" else value? p.lookup text
    return ⟨p.environment.setDefault name value, (name, value) :: p.given⟩

/-- Takes in lines up to the first that cannot be read. -/
def Progress.run (p : Progress) : List (List Char) → Progress
  | [] => p
  | line :: lines =>
    match p.step? line with
    | some p => p.run lines
    | none => p

/-- The text after a byte order mark. -/
def skipMark : List Char → List Char
  | '\uFEFF' :: rest => rest
  | cs => cs

/-- The environment with the variables of a file set that it does not have. -/
def apply (environment : Environment) (text : String) : Environment :=
  let lines := joinLines .nothing [] (physicalLines (skipMark text.toList))
  (Progress.run ⟨environment, []⟩ lines).environment

/-- The characters of the lines before the first that is no UTF-8. -/
def readable (content : Bytes) (line : Bytes) : List Char :=
  let decode (line : Bytes) : Option (List Char) :=
    (String.fromUTF8? (ByteArray.mk line.reverse.toArray)).map String.toList
  match content with
  | [] => (decode line).getD []
  | b :: rest =>
    if b = 10 then
      match decode (b :: line) with
      | some cs => cs ++ readable rest []
      | none => []
    else readable rest (b :: line)

/-- The names that a text may refer to: its runs of characters of names. -/
def mentioned (text : String) : List String :=
  let spaced := text.toList.map fun c => if isNamePart c || Text.isAlphanumeric c then c else ' '
  ((Text.parts ' ' spaced).filter fun name => !name.isEmpty).map String.ofList

/-- The text of a file, as far as it is UTF-8. -/
def textOf (content : Bytes) : String := String.ofList (readable content [])

end ChunkVault.Config.Dotenv
