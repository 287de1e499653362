/-
# ChunkVault.Timestamp -- when rows were written, and the RFC 3339 text of a moment

A store that keeps its own clock stamps rows with the ticks of that clock: their order is known and
nothing else about them matters. A database hands back moments of universal time.

The calendar is the proleptic Gregorian one. Years are counted in eras of 400 years, each of 146097
days, and a year is taken to begin in March, so that the leap day is its last day.
-/
import ChunkVault.Text.Decimal

namespace ChunkVault

/-- A moment of universal time: whole seconds since 1970 and the nanoseconds into that second. A leap
second is written as the second before it with a thousand million nanoseconds or more. -/
structure Moment where
  seconds : Int
  nanos : Nat
deriving DecidableEq

/-- When a row was written. -/
inductive Timestamp where
  /-- A tick of the store's own clock. -/
  | tick (n : Nat)
  /-- A moment that a database reported. -/
  | moment (m : Moment)
deriving DecidableEq

/-! ## The calendar -/

/-- A day of the calendar. -/
structure Date where
  year : Int
  month : Nat
  day : Nat
deriving DecidableEq

namespace Date

/-- Days from 1 March of year 0 to 1 January 1970. -/
def epochOffset : Int := 719468

/-- The days since 1 January 1970. -/
def toDays (d : Date) : Int :=
  let y := if d.month ≤ 2 then d.year - 1 else d.year
  let era := y.fdiv 400
  let yearOfEra := y.fmod 400
  let monthOfYear : Int := (d.month + 9) % 12
  let dayOfYear := (153 * monthOfYear + 2).fdiv 5 + d.day - 1
  let dayOfEra := yearOfEra * 365 + yearOfEra.fdiv 4 - yearOfEra.fdiv 100 + dayOfYear
  era * 146097 + dayOfEra - epochOffset

/-- The day that lies `n` days after 1 January 1970. -/
def ofDays (n : Int) : Date :=
  let z := n + epochOffset
  let era := z.fdiv 146097
  let dayOfEra := z.fmod 146097
  let yearOfEra :=
    (dayOfEra - dayOfEra.fdiv 1460 + dayOfEra.fdiv 36524 - dayOfEra.fdiv 146096).fdiv 365
  let dayOfYear := dayOfEra - (365 * yearOfEra + yearOfEra.fdiv 4 - yearOfEra.fdiv 100)
  let shifted := (5 * dayOfYear + 2).fdiv 153
  let day := dayOfYear - (153 * shifted + 2).fdiv 5 + 1
  let month := if shifted < 10 then shifted + 3 else shifted - 9
  let year := yearOfEra + era * 400
  { year := if month ≤ 2 then year + 1 else year, month := month.toNat, day := day.toNat }

/-- The number of days of a month. -/
def monthLength (year : Int) (month : Nat) : Nat :=
  if month = 2 then
    if year.fmod 4 = 0 ∧ (year.fmod 100 ≠ 0 ∨ year.fmod 400 = 0) then 29 else 28
  else if month = 4 ∨ month = 6 ∨ month = 9 ∨ month = 11 then 30
  else 31

/-- Whether the calendar has this day. -/
def isValid (d : Date) : Bool :=
  1 ≤ d.month && d.month ≤ 12 && 1 ≤ d.day && d.day ≤ monthLength d.year d.month

end Date

/-! ## RFC 3339 -/

namespace Moment

/-- A thousand million: the nanoseconds of a second. -/
def perSecond : Nat := 1000000000

/-- A number in decimal, filled up with zeros on the left. -/
def padded (width n : Nat) : String :=
  let s := toString n
  String.ofList (List.replicate (width - s.length) '0') ++ s

/-- A year has four digits; outside of 0 to 9999 it also has a sign. -/
def yearText (y : Int) : String :=
  if y < 0 then "-" ++ padded 4 y.natAbs
  else if 9999 < y then "+" ++ toString y.toNat
  else padded 4 y.toNat

/-- The fewest of 0, 3, 6 or 9 digits that are exact. -/
def fractionText (nanos : Nat) : String :=
  if nanos = 0 then ""
  else if nanos % 1000000 = 0 then "." ++ padded 3 (nanos / 1000000)
  else if nanos % 1000 = 0 then "." ++ padded 6 (nanos / 1000)
  else "." ++ padded 9 nanos

/-- The text of a moment, in universal time. -/
def text (m : Moment) : String :=
  let date := Date.ofDays (m.seconds.fdiv 86400)
  let clock := (m.seconds.fmod 86400).toNat
  let leap := if perSecond ≤ m.nanos then 1 else 0
  let nanos := m.nanos - leap * perSecond
  yearText date.year ++ "-" ++ padded 2 date.month ++ "-" ++ padded 2 date.day ++ "T" ++
    padded 2 (clock / 3600) ++ ":" ++ padded 2 (clock / 60 % 60) ++ ":" ++
    padded 2 (clock % 60 + leap) ++ fractionText nanos ++ "Z"

/-- Takes a number of exactly `width` digits from the front. -/
def number? (width : Nat) (cs : List Char) : Option (Nat × List Char) :=
  if cs.length < width then none
  else (Text.digits? (cs.take width)).map fun n => (n, cs.drop width)

/-- Takes one of the given characters from the front. -/
def mark? (allowed : List Char) : List Char → Option (List Char)
  | c :: rest => if c ∈ allowed then some rest else none
  | [] => none

/-- Takes an optional fraction from the front; digits beyond the ninth are cut off. -/
def fraction? : List Char → Option (Nat × List Char)
  | '.' :: rest =>
    let ds := rest.takeWhile Text.isDigit
    let nine := (ds ++ List.replicate 9 '0').take 9
    if ds.isEmpty then none else some (Text.ofDigits nine, rest.dropWhile Text.isDigit)
  | cs => some (0, cs)

/-- Reads what stands after the clock: `Z`, or the hours and minutes that the clock is ahead, or behind
after a hyphen or a minus sign. The answer is in seconds. -/
def offset? : List Char → Option Int
  | ['Z'] | ['z'] => some 0
  | sign :: rest => do
    let (hours, rest) ← number? 2 rest
    let rest ← mark? [':'] rest
    let (minutes, rest) ← number? 2 rest
    if !rest.isEmpty || 23 < hours || 59 < minutes then none
    let ahead : Int := hours * 3600 + minutes * 60
    if sign = '+' then some ahead
    else if sign = '-' || sign.toNat = 0x2212 then some (-ahead)
    else none
  | [] => none

/-- Reads a moment; a second of 60 is a leap second. -/
def parse? (s : String) : Option Moment := do
  let (year, cs) ← number? 4 s.toList
  let cs ← mark? ['-'] cs
  let (month, cs) ← number? 2 cs
  let cs ← mark? ['-'] cs
  let (day, cs) ← number? 2 cs
  let cs ← mark? ['T', 't', ' '] cs
  let (hour, cs) ← number? 2 cs
  let cs ← mark? [':'] cs
  let (minute, cs) ← number? 2 cs
  let cs ← mark? [':'] cs
  let (second, cs) ← number? 2 cs
  let (nanos, cs) ← fraction? cs
  let ahead ← offset? cs
  let date : Date := { year := year, month := month, day := day }
  if !date.isValid || 23 < hour || 59 < minute || 60 < second then none
  let leap : Nat := if second = 60 then 1 else 0
  some {
    seconds := date.toDays * 86400 + hour * 3600 + minute * 60 + (second - leap : Nat) - ahead
    nanos := nanos + leap * perSecond }

end Moment

/-- The text of a stamp. A tick has none of its own and is written `<ts>`. -/
def Timestamp.text : Timestamp → String
  | tick _ => "<ts>"
  | moment m => m.text

end ChunkVault
