/-
# ChunkVault.Toml.Quoted -- strings and keys

There are four kinds of strings: in double quotes with escapes, or in apostrophes without, and each on one
line, or on several between three of them. A quoted text is first cut out of the document, each backslash
together with the character after it, and then its escapes are resolved.
-/
import ChunkVault.Text.Hex
import ChunkVault.Toml.Scanner

namespace ChunkVault.Toml

/-! ## Escapes -/

/-- The character with a number in hexadecimal; surrogates and numbers that are too great have none. -/
def scalar? (digits : List Char) : Option Char :=
  (Text.ofHex? digits).bind fun n => if h : n.isValidChar then some (Char.ofNatAux n h) else none

/-- The character that a letter after a backslash stands for. -/
def ofLetter? : Char → Option Char
  | 'b' => some '\x08'
  | 't' => some '\t'
  | 'n' => some '\n'
  | 'f' => some '\x0c'
  | 'r' => some '\r'
  | '"' => some '"'
  | '\\' => some '\\'
  | _ => none

/-- Resolves the escapes of a text. -/
def unescape? : List Char → Option (List Char)
  | '\\' :: 'u' :: a :: b :: c :: d :: rest =>
    (scalar? [a, b, c, d]).bind fun x => (unescape? rest).map (x :: ·)
  | '\\' :: 'U' :: a :: b :: c :: d :: e :: f :: g :: h :: rest =>
    (scalar? [a, b, c, d, e, f, g, h]).bind fun x => (unescape? rest).map (x :: ·)
  | '\\' :: c :: rest => (ofLetter? c).bind fun x => (unescape? rest).map (x :: ·)
  | c :: rest => (unescape? rest).map (c :: ·)
  | [] => some []

/-- Takes out each backslash that ends a line, with the blanks and line ends after it. -/
def joinLines : List Char → List Char
  | '\\' :: c :: rest =>
    match newline? (skipBlanks (c :: rest)) with
    | some _ => joinLines (rest.dropWhile fun c => isBlank c || c = '\n')
    | none => '\\' :: c :: joinLines rest
  | c :: rest => c :: joinLines rest
  | [] => []
termination_by cs => cs.length
decreasing_by
  · exact Nat.lt_succ_of_le (Nat.le_succ_of_le (List.dropWhile_sublist _).length_le)
  · simp only [List.length_cons]; omega
  · simp

/-! ## Cutting out a quoted text -/

/-- The text up to a closing double quote on the same line. -/
def untilQuote? : Scanner (List Char)
  | '"' :: rest => some ([], rest)
  | '\\' :: c :: rest => (untilQuote? rest).map fun (s, rest) => ('\\' :: c :: s, rest)
  | c :: rest => if isPlain c then (untilQuote? rest).map fun (s, rest) => (c :: s, rest) else none
  | [] => none

/-- The text up to a closing apostrophe on the same line. -/
def untilApostrophe? : Scanner (List Char)
  | '\'' :: rest => some ([], rest)
  | c :: rest =>
    if isPlain c then (untilApostrophe? rest).map fun (s, rest) => (c :: s, rest) else none
  | [] => none

/-- The text up to three closing quotes; up to two more quotes before them belong to the text. A line end
becomes a line feed. With `escapes` a backslash keeps the next character from being looked at. -/
def untilTriple? (quote : Char) (escapes : Bool) : Scanner (List Char)
  | a :: b :: c :: rest =>
    if a = quote ∧ b = quote ∧ c = quote then
      let more := (rest.take 2).takeWhile (· = quote)
      some (more, rest.drop more.length)
    else if escapes ∧ a = '\\' then
      (untilTriple? quote escapes (c :: rest)).map fun (s, rest) => (a :: b :: s, rest)
    else if a = '\r' ∧ b = '\n' then
      (untilTriple? quote escapes (c :: rest)).map fun (s, rest) => ('\n' :: s, rest)
    else if isPlain a ∨ a = '\n' then
      (untilTriple? quote escapes (b :: c :: rest)).map fun (s, rest) => (a :: s, rest)
    else none
  | _ => none

/-- The text after a line end right after the opening quotes. -/
def skipFirstNewline (cs : List Char) : List Char := (newline? cs).getD cs

/-- A string of any kind. -/
def string? : Scanner String
  | '"' :: '"' :: '"' :: rest =>
    (untilTriple? '"' true (skipFirstNewline rest)).bind fun (raw, rest) =>
      (unescape? (joinLines raw)).map fun s => (String.ofList s, rest)
  | '\'' :: '\'' :: '\'' :: rest =>
    (untilTriple? '\'' false (skipFirstNewline rest)).map fun (s, rest) => (String.ofList s, rest)
  | '"' :: rest =>
    (untilQuote? rest).bind fun (raw, rest) =>
      (unescape? raw).map fun s => (String.ofList s, rest)
  | '\'' :: rest => (untilApostrophe? rest).map fun (s, rest) => (String.ofList s, rest)
  | _ => none

/-! ## Keys -/

/-- A character of a key without quotes. -/
def isBare (c : Char) : Bool :=
  ('a' ≤ c && c ≤ 'z') || ('A' ≤ c && c ≤ 'Z') || ('0' ≤ c && c ≤ '9') || c = '-' || c = '_'

/-- A key without dots; a quoted one stands on one line. -/
def simpleKey? : Scanner String
  | '"' :: rest =>
    (untilQuote? rest).bind fun (raw, rest) =>
      (unescape? raw).map fun s => (String.ofList s, rest)
  | '\'' :: rest => (untilApostrophe? rest).map fun (s, rest) => (String.ofList s, rest)
  | cs => (Scanner.run? isBare cs).map fun (s, rest) => (String.ofList s, rest)

/-- The number that neither the depth of a value nor the length of a key may reach. -/
def depthLimit : Nat := 80

/-- A key with blanks around its parts: the parts before the last, and the last. -/
def key? : Scanner (List String × String) := fun cs =>
  let part : Scanner String := fun cs =>
    (simpleKey? (skipBlanks cs)).map fun (s, rest) => (s, skipBlanks rest)
  (Scanner.sepBy? part '.' cs).bind fun (parts, rest) =>
    match parts.getLast? with
    | some last => if parts.length < depthLimit then some ((parts.dropLast, last), rest) else none
    | none => none

end ChunkVault.Toml
