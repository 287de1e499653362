/-
# ChunkVault.Toml.Number -- whole numbers, floating-point numbers, dates and times

The digits of a number may be grouped by single underscores. A whole number has 64 bits, and only one in
base ten has a sign. A floating-point number has a fraction, an exponent or both; it may not be so great
that it becomes infinite, but a negative one may.
-/
import ChunkVault.Text.Hex
import ChunkVault.Timestamp
import ChunkVault.Toml.Scanner
import ChunkVault.Toml.Value

namespace ChunkVault.Toml

open Text (isDigit)

/-! ## Digits -/

/-- The digits after the first: each may have one underscore before it. -/
def moreDigits (p : Char → Bool) : List Char → List Char × List Char
  | '_' :: c :: rest =>
    if p c then
      let (digits, rest) := moreDigits p rest
      (c :: digits, rest)
    else ([], '_' :: c :: rest)
  | c :: rest =>
    if p c then
      let (digits, rest) := moreDigits p rest
      (c :: digits, rest)
    else ([], c :: rest)
  | [] => ([], [])

/-- One or more digits, without their underscores. -/
def digits? (p : Char → Bool) : Scanner (List Char)
  | c :: rest =>
    if p c then
      let (digits, rest) := moreDigits p rest
      some (c :: digits, rest)
    else none
  | [] => none

/-- A sign, if there is one: whether it is a minus. -/
def sign : List Char → Bool × List Char
  | '+' :: rest => (false, rest)
  | '-' :: rest => (true, rest)
  | cs => (false, cs)

/-- The digits of a whole number in base ten: one zero, or digits that do not begin with it. -/
def wholeDigits? : Scanner (List Char)
  | '0' :: rest => some (['0'], rest)
  | cs => digits? isDigit cs

/-! ## Whole numbers -/

/-- A number of 64 bits. -/
def int64? (n : Int) : Option Value :=
  if -9223372036854775808 ≤ n ∧ n ≤ 9223372036854775807 then some (.integer n) else none

/-- The number that digits of a base stand for. -/
def ofBase (base : Nat) (digits : List Char) : Nat :=
  digits.foldl (fun n c => base * n + (Text.hexValue? c).getD 0) 0

/-- A digit of a base up to sixteen. -/
def isDigitOf (base : Nat) (c : Char) : Bool := (Text.hexValue? c).any (· < base)

/-- The digits of a base, as a number. -/
def based? (base : Nat) (cs : List Char) : Option (Value × List Char) :=
  (digits? (isDigitOf base) cs).bind fun (digits, rest) =>
    (int64? (ofBase base digits)).map fun v => (v, rest)

/-- A whole number. -/
def integer? : Scanner Value
  | '0' :: 'x' :: rest => based? 16 rest
  | '0' :: 'o' :: rest => based? 8 rest
  | '0' :: 'b' :: rest => based? 2 rest
  | cs =>
    let (negative, cs) := sign cs
    (wholeDigits? cs).bind fun (digits, rest) =>
      let n : Int := ofBase 10 digits
      (int64? (if negative then -n else n)).map fun v => (v, rest)

/-! ## Floating-point numbers -/

/-- The digits of a fraction, after its point. -/
def fraction? : Scanner (List Char)
  | '.' :: rest => digits? isDigit rest
  | _ => none

/-- An exponent. -/
def exponent? : Scanner Int
  | c :: rest =>
    if c = 'e' ∨ c = 'E' then
      let (negative, rest) := sign rest
      (digits? isDigit rest).map fun (digits, rest) =>
        let n : Int := ofBase 10 digits
        (if negative then -n else n, rest)
    else none
  | [] => none

/-- The number with the given digits before and after the point. -/
def floatValue? (negative : Bool) (whole fraction : List Char) (exponent : Int) : Option Value :=
  let x := Text.Binary64.ofDecimal negative (ofBase 10 (whole ++ fraction)) (exponent - fraction.length)
  if x = .infinite false then none else some (.float x)

/-- A number with a fraction or an exponent. -/
def decimal? : Scanner Value := fun cs =>
  let (negative, cs) := sign cs
  (wholeDigits? cs).bind fun (whole, rest) =>
    match fraction? rest with
    | some (fraction, rest) =>
      let (exponent, rest) := (exponent? rest).getD (0, rest)
      (floatValue? negative whole fraction exponent).map fun v => (v, rest)
    | none =>
      (exponent? rest).bind fun (exponent, rest) =>
        (floatValue? negative whole [] exponent).map fun v => (v, rest)

/-- Infinity, or the value that is no number. -/
def special? : Scanner Value := fun cs =>
  let (negative, cs) := sign cs
  match cs with
  | 'i' :: 'n' :: 'f' :: rest => some (.float (.infinite negative), rest)
  | 'n' :: 'a' :: 'n' :: rest => some (.float .nan, rest)
  | _ => none

/-! ## Dates and times -/

/-- Exactly `width` digits that stand for a number of at most `limit`. -/
def field? (width limit : Nat) : Scanner Nat := fun cs =>
  (Scanner.exactly? width isDigit cs).bind fun (digits, rest) =>
    let n := Text.ofDigits digits
    if n ≤ limit then some (n, rest) else none

/-- The text after a day of the calendar. -/
def afterDate? (cs : List Char) : Option (List Char) := do
  let (year, cs) ← field? 4 9999 cs
  let cs ← Scanner.after? ['-'] cs
  let (month, cs) ← field? 2 12 cs
  let cs ← Scanner.after? ['-'] cs
  let (day, cs) ← field? 2 31 cs
  if Date.isValid ⟨year, month, day⟩ then some cs else none

/-- The text after a fraction of a second, if there is one. -/
def skipFraction : List Char → List Char
  | '.' :: c :: rest => if isDigit c then rest.dropWhile isDigit else '.' :: c :: rest
  | cs => cs

/-- The text after a time of the day; a leap second is allowed in every minute. -/
def afterTime? (cs : List Char) : Option (List Char) := do
  let (_, cs) ← field? 2 23 cs
  let cs ← Scanner.after? [':'] cs
  let (_, cs) ← field? 2 59 cs
  let cs ← Scanner.after? [':'] cs
  let (_, cs) ← field? 2 60 cs
  return skipFraction cs

/-- The text after an offset from universal time. -/
def afterOffset? : List Char → Option (List Char)
  | c :: cs =>
    if c = 'Z' ∨ c = 'z' then some cs
    else if c = '+' ∨ c = '-' then do
      let (_, cs) ← field? 2 23 cs
      let cs ← Scanner.after? [':'] cs
      let (_, cs) ← field? 2 59 cs
      return cs
    else none
  | [] => none

/-- The text after a time on the day before it, with its offset, as far as there are any. -/
def skipTimeOfDate (cs : List Char) : List Char :=
  match cs with
  | c :: rest =>
    if c = 'T' ∨ c = 't' ∨ c = ' ' then
      match afterTime? rest with
      | some rest => (afterOffset? rest).getD rest
      | none => cs
    else cs
  | [] => []

/-- A date, a time, or both. -/
def dateTime? : Scanner Value := fun cs =>
  let rest? := match afterDate? cs with
    | some rest => some (skipTimeOfDate rest)
    | none => afterTime? cs
  rest?.map fun rest => (.dateTime (String.ofList (cs.take (cs.length - rest.length))), rest)

/-! ## Any of them -/

/-- Whatever begins with a sign or a digit. -/
def number? : Scanner Value := fun cs =>
  (((dateTime? cs).orElse fun _ => decimal? cs).orElse fun _ => special? cs).orElse fun _ => integer? cs

end ChunkVault.Toml
