/-
# ChunkVault.Log.Pattern -- which texts are patterns

A pattern is a regular expression: alternatives, groups with names and flags, classes in brackets,
repetitions, anchors and escapes. All that matters about one here is whether it is one; nothing is ever
matched against it. Patterns stand between braces, so a count in braces cannot be part of one.

The edges of words are anchors only in bytes: a search that looks at each character once cannot tell them
in text of all scripts.
-/
import ChunkVault.Text.Alphanumeric
import ChunkVault.Text.Blank
import ChunkVault.Text.Decimal
import ChunkVault.Text.Hex

namespace ChunkVault.Log.Pattern

/-- What the flags that are set say about reading on. -/
structure Mode where
  /-- Blanks, and comments up to the end of a line, are skipped. -/
  isSpaced : Bool
  /-- Characters are matched, and not bytes. -/
  isUnicode : Bool
deriving DecidableEq

namespace Mode

/-- The mode at the beginning. -/
def start : Mode := ⟨false, true⟩

/-- The text without the blanks and comments in front of it. The number bounds the characters skipped. -/
def skipWithin : Nat → List Char → List Char
  | 0, cs => cs
  | n + 1, cs =>
    match Text.trimFront cs with
    | '#' :: rest => skipWithin n (rest.dropWhile (· ≠ '\n'))
    | cs => cs

/-- The text without what is skipped in front of it. -/
def skip (m : Mode) (cs : List Char) : List Char :=
  if m.isSpaced then skipWithin cs.length cs else cs

end Mode

/-! ## Escapes -/

/-- What a single sign in a pattern stands for. -/
inductive Sign where
  | literal (c : Char)
  | set
  | anchor
deriving DecidableEq

/-- Reads a row of `n` hexadecimal digits, with what is skipped between them. -/
def hexDigits? (m : Mode) : Nat → List Char → Option (List Char × List Char)
  | 0, cs => some ([], cs)
  | n + 1, cs =>
    match m.skip cs with
    | c :: rest =>
      if (Text.hexValue? c).isSome then
        (hexDigits? m n rest).map fun (digits, rest) => (c :: digits, rest)
      else none
    | [] => none

/-- Reads a character that is given by its number in `n` hexadecimal digits. -/
def hexChar? (m : Mode) (n : Nat) (cs : List Char) : Option (Sign × List Char) := do
  let (digits, rest) ← hexDigits? m n cs
  let number ← Text.ofHex? digits
  if number.isValidChar ∧ (m.isUnicode ∨ n ≠ 2 ∨ number < 128) then
    some (.literal (Char.ofNat number), rest)
  else none

/-- The number of digits behind the letter of an escape. -/
def hexWidth? : Char → Option Nat
  | 'x' => some 2
  | 'u' => some 4
  | 'U' => some 8
  | _ => none

/-- Reads the general category of a class of characters: one letter. -/
def category? (m : Mode) (cs : List Char) : Option (Sign × List Char) :=
  match m.skip cs with
  | c :: rest => if m.isUnicode ∧ c.toUpper ∈ "CLMNPSZ".toList then some (.set, rest) else none
  | [] => none

/-- What a letter behind a backslash stands for, if nothing more belongs to it. -/
def letterSign? (m : Mode) (c : Char) : Option Sign :=
  if c ∈ "dsw".toList then some .set
  else if c ∈ "DSW".toList then if m.isUnicode then some .set else none
  else if c ∈ "afnrtv".toList then some (.literal c)
  else if c = 'A' ∨ c = 'z' then some .anchor
  else if c ∈ ['b', 'B', '<', '>'] then if m.isUnicode then none else some .anchor
  else if c.toNat < 128 ∧ !c.isAlphanum then some (.literal c)
  else none

/-- Reads what stands behind a backslash. -/
def escape? (m : Mode) : List Char → Option (Sign × List Char)
  | [] => none
  | c :: rest =>
    match hexWidth? c with
    | some n => hexChar? m n rest
    | none =>
      if c = 'p' ∨ c = 'P' then category? m rest
      else (letterSign? m c).map fun sign => (sign, rest)

/-! ## Classes in brackets -/

/-- The names of classes of ASCII characters. -/
def classNames : List String :=
  ["alnum", "alpha", "ascii", "blank", "cntrl", "digit", "graph", "lower", "print", "punct", "space",
    "upper", "word", "xdigit"]

/-- Reads a class by its name, as `[:alpha:]` or `[:^alpha:]`; the opening bracket is already gone. -/
def namedClass? (m : Mode) (cs : List Char) : Option (List Char) :=
  match cs with
  | ':' :: rest =>
    let negated := rest.head? = some '^'
    let named := if negated then rest.drop 1 else rest
    match named.dropWhile (· ≠ ':') with
    | ':' :: ']' :: after =>
      if String.ofList (named.takeWhile (· ≠ ':')) ∈ classNames ∧ (m.isUnicode ∨ !negated) then some after
      else none
    | _ => none
  | _ => none

/-- Skips the hyphens at the front of a class, which stand for themselves. -/
def dropHyphens (m : Mode) : Nat → List Char → List Char
  | 0, cs => cs
  | n + 1, cs =>
    match cs with
    | '-' :: rest => dropHyphens m n (m.skip rest)
    | _ => cs

/-- Reads the front of a class: an optional negation, and hyphens or a closing bracket that stand for
themselves. The opening bracket is already gone. -/
def openClass? (m : Mode) (cs : List Char) : Option (List Char) :=
  let cs := m.skip cs
  let negated := cs.head? = some '^'
  let cs := if negated then m.skip (cs.drop 1) else cs
  let rest := dropHyphens m cs.length cs
  let rest := if cs.head? = some ']' then m.skip (cs.drop 1) else rest
  if rest.isEmpty ∨ (negated ∧ !m.isUnicode) then none else some rest

/-- Reads a sign in a class. -/
def classSign? (m : Mode) : List Char → Option (Sign × List Char)
  | [] => none
  | '\\' :: rest => escape? m rest
  | c :: rest => if m.isUnicode ∨ c.toNat < 128 then some (.literal c, rest) else none

/-- Reads a sign of a class, or a range of characters in ascending order. -/
def classItem? (m : Mode) (cs : List Char) : Option (List Char) := do
  let (first, rest) ← classSign? m cs
  let rest := m.skip rest
  let next := (m.skip (rest.drop 1)).head?
  if rest.head? ≠ some '-' ∨ next = some ']' ∨ next = some '-' then
    if first = .anchor then none else some rest
  else
    let (last, rest) ← classSign? m (m.skip (rest.drop 1))
    match first, last with
    | .literal a, .literal b => if a ≤ b then some rest else none
    | _, _ => none

/-- Reads to the end of a class that stands within `depth` others. The first number bounds the steps. -/
def classRest? (m : Mode) : Nat → (depth : Nat) → List Char → Option (List Char)
  | 0, _, _ => none
  | n + 1, depth, cs =>
    match m.skip cs with
    | [] => none
    | '[' :: rest =>
      match namedClass? m rest with
      | some rest => classRest? m n depth rest
      | none => (openClass? m rest).bind (classRest? m n (depth + 1))
    | ']' :: rest => if depth = 0 then some rest else classRest? m n (depth - 1) rest
    | '&' :: '&' :: rest | '-' :: '-' :: rest | '~' :: '~' :: rest => classRest? m n depth rest
    | cs => (classItem? m cs).bind (classRest? m n depth)

/-- Reads a class behind its opening bracket. -/
def class? (m : Mode) (cs : List Char) : Option (List Char) :=
  (openClass? m cs).bind (classRest? m (cs.length + 1) 0)

/-! ## Groups -/

/-- A character of the name of a group. -/
def isNameChar (isFirst : Bool) (c : Char) : Bool :=
  c = '_' ||
    if isFirst then Text.isAlphanumeric c && !Text.isDigit c
    else c = '.' || c = '[' || c = ']' || Text.isAlphanumeric c

/-- Reads the name of a group up to its closing angle. -/
def groupName? (cs : List Char) : Option (List Char × List Char) :=
  match cs.takeWhile (· ≠ '>'), cs.dropWhile (· ≠ '>') with
  | c :: more, _ :: rest =>
    if isNameChar true c ∧ more.all (isNameChar false) then some (c :: more, rest) else none
  | _, _ => none

/-- Whether some letters are flags: each at most once, and one hyphen with letters behind it. -/
def areFlags (letters : List Char) : Bool :=
  letters.all (· ∈ "imsUuRx-".toList) && letters.eraseDups.length = letters.length &&
    letters.getLast? ≠ some '-'

/-- The mode that flags lead to: those behind the hyphen are taken away. -/
def Mode.set (m : Mode) (letters : List Char) : Mode :=
  let given := letters.takeWhile (· ≠ '-')
  let taken := letters.dropWhile (· ≠ '-')
  let flag (c : Char) (old : Bool) : Bool := if c ∈ given then true else if c ∈ taken then false else old
  ⟨flag 'x' m.isSpaced, flag 'u' m.isUnicode⟩

/-! ## Patterns -/

/-- How far a pattern has been read. -/
structure State where
  mode : Mode
  /-- The modes that come back where the open groups end, the innermost first. -/
  groups : List Mode
  /-- The names of the groups so far. -/
  names : List (List Char)
  /-- Whether a repetition may follow. -/
  canRepeat : Bool
deriving DecidableEq

namespace State

/-- The state at the beginning. -/
def start : State := ⟨.start, [], [], false⟩

/-- One thing has been read that may be repeated. -/
def item (s : State) : State := { s with canRepeat := true }

/-- A group opens. -/
def openGroup (s : State) (mode : Mode) : State :=
  { s with mode := mode, groups := s.mode :: s.groups, canRepeat := false }

/-- A group with a name opens, unless another one has the name. -/
def openNamed? (s : State) (cs : List Char) : Option (State × List Char) := do
  let (name, rest) ← groupName? cs
  if name ∈ s.names then none
  else some ({ s.openGroup s.mode with names := name :: s.names }, rest)

/-- Flags are set, for a group of their own or for the rest of the one around them. -/
def setFlags? (s : State) (cs : List Char) : Option (State × List Char) :=
  let isFlag (c : Char) : Bool := c ≠ ':' && c ≠ ')'
  let letters := cs.takeWhile isFlag
  if !areFlags letters then none
  else
    match cs.dropWhile isFlag with
    | ':' :: rest => some (s.openGroup (s.mode.set letters), rest)
    | ')' :: rest =>
      if letters.isEmpty then none
      else some ({ s with mode := s.mode.set letters, canRepeat := false }, rest)
    | _ => none

/-- Reads the front of a group. Looking ahead or behind is not supported. -/
def group? (s : State) (cs : List Char) : Option (State × List Char) :=
  match s.mode.skip cs with
  | '?' :: '=' :: _ | '?' :: '!' :: _ | '?' :: '<' :: '=' :: _ | '?' :: '<' :: '!' :: _ => none
  | '?' :: 'P' :: '<' :: rest | '?' :: '<' :: rest => s.openNamed? rest
  | '?' :: rest => s.setFlags? rest
  | rest => some (s.openGroup s.mode, rest)

/-- Reads on behind the character `c`. -/
def step? (s : State) (c : Char) (rest : List Char) : Option (State × List Char) :=
  match c with
  | '(' => s.group? rest
  | ')' =>
    match s.groups with
    | mode :: groups => some ({ s.item with mode := mode, groups := groups }, rest)
    | [] => none
  | '|' => some ({ s with canRepeat := false }, rest)
  | '[' => (class? s.mode rest).map fun rest => (s.item, rest)
  | '*' | '+' | '?' =>
    if s.canRepeat then some (s, if rest.head? = some '?' then rest.drop 1 else rest) else none
  | '\x7b' => none
  | '\\' => (escape? s.mode rest).map fun (_, rest) => (s.item, rest)
  | '.' => if s.mode.isUnicode then some (s.item, rest) else none
  | _ => some (s.item, rest)

/-- Reads to the end; all groups have to end, too. The number bounds the steps. -/
def run (s : State) : Nat → List Char → Bool
  | 0, _ => false
  | n + 1, cs =>
    match s.mode.skip cs with
    | [] => s.groups.isEmpty
    | c :: rest =>
      match s.step? c rest with
      | some (s, rest) => run s n rest
      | none => false

end State

/-- Whether a text is a pattern. -/
def isPattern (cs : List Char) : Bool := State.start.run (cs.length + 1) cs

/-! ## Values of fields -/

/-- Whether a text is an exponent, or empty. -/
def isExponent : List Char → Bool
  | [] => true
  | mark :: rest =>
    let digits := match rest with
      | '+' :: rest | '-' :: rest => rest
      | _ => rest
    (mark = 'e' || mark = 'E') && !digits.isEmpty && digits.all Text.isDigit

/-- Whether a text without a sign is a number, or the name of one. -/
def isNumber (cs : List Char) : Bool :=
  let rest := cs.dropWhile Text.isDigit
  let fraction := if rest.head? = some '.' then (rest.drop 1).takeWhile Text.isDigit else []
  let rest := if rest.head? = some '.' then (rest.drop 1).dropWhile Text.isDigit else rest
  String.ofList (cs.map Char.toLower) ∈ ["inf", "infinity", "nan"] ||
    ((Text.isDigit (cs.headD '-') || !fraction.isEmpty) && isExponent rest)

/-- Whether a text may be asked for as the value of a field: a pattern, or a number with a plus sign. -/
def isFieldValue (cs : List Char) : Bool :=
  isPattern cs ||
    match cs with
    | '+' :: rest => isNumber rest
    | _ => false

end ChunkVault.Log.Pattern
