/-
# ChunkVault.Idna.Punycode -- labels that are written in ASCII for others

What a label holds of ASCII comes first, up to the last hyphen. The rest are numbers that say which
characters are inserted, and where, in the order of the characters: each number is the distance to the next
insertion, counted over all places for all characters. A number is written in digits to a base of 36, the
lowest first, and ends at a digit below a threshold, which adapts to the size of the numbers.
-/
import ChunkVault.Text.Decimal

namespace ChunkVault.Idna.Punycode

/-- The value of a digit: letters come before numerals. -/
def digit? (c : Char) : Option Nat :=
  if c.isLower then some (c.toNat - 'a'.toNat)
  else if Text.isDigit c then some (26 + Text.digitValue c)
  else none

/-- The threshold of the digit at a place, which grows by 36 from one to the next. -/
def threshold (bias place : Nat) : Nat :=
  if place ≤ bias then 1 else if bias + 26 ≤ place then 26 else place - bias

/-- Divides a number until it is small; each division counts for 36. -/
def shrink (n count : Nat) : Nat × Nat := if 455 < n then shrink (n / 35) (count + 36) else (n, count)
termination_by n
decreasing_by exact Nat.div_lt_self (by omega) (by omega)

/-- The bias after a number, which made a text of `length` characters. -/
def adapt (n length : Nat) (isFirst : Bool) : Nat :=
  let n := if isFirst then n / 700 else n / 2
  let (n, count) := shrink (n + n / length) 0
  count + 36 * n / (n + 38)

/-- A number that may be too large. -/
def word? (n : Nat) : Option Nat := if n ≤ Text.maxWord32 then some n else none

/-- Reads a number and adds it to another, from the digit at a place on; a digit counts `weight` times. The
text after the number is handed on. -/
def number? (bias place weight sum : Nat) : List Char → Option (Nat × List Char)
  | [] => none
  | c :: rest => do
    let digit ← digit? c
    let sum ← word? (sum + digit * weight)
    let t := threshold bias place
    if digit < t then return (sum, rest)
    number? bias (place + 36) (← word? (weight * (36 - t))) sum rest

/-- A number takes up some text. -/
theorem length_number? {bias place weight sum n : Nat} {cs rest : List Char}
    (h : number? bias place weight sum cs = some (n, rest)) : rest.length < cs.length := by
  induction cs generalizing place weight sum with
  | nil => simp [number?] at h
  | cons c cs ih =>
    simp only [number?, Option.bind_eq_bind, Option.bind_eq_some_iff] at h
    obtain ⟨digit, -, total, -, h⟩ := h
    split at h
    · simp_all
    · obtain ⟨weight, -, h⟩ := Option.bind_eq_some_iff.1 h
      exact Nat.lt_succ_of_lt (ih h)

/-- Inserts characters into a text. No character below `code` is inserted any more, nor `code` itself in
front of `index`; the numbers are in `cs`. -/
def insertAll (out : List Char) (code index bias : Nat) (cs : List Char) : Option (List Char) :=
  if cs.isEmpty then some out
  else
    match _h : number? bias 36 1 index cs with
    | none => none
    | some (sum, rest) =>
      let length := out.length + 1
      let code := code + sum / length
      let place := sum % length
      if code.isValidChar then
        insertAll (out.take place ++ Char.ofNat code :: out.drop place) code (place + 1)
          (adapt (sum - index) length (index = 0)) rest
      else none
termination_by cs.length
decreasing_by exact length_number? (by assumption)

/-- The text that a label stands for. -/
def decode? (cs : List Char) : Option (List Char) :=
  let isHyphen (c : Char) : Bool := c = '-'
  let numbers := (cs.reverse.takeWhile (!isHyphen ·)).reverse
  let plain := cs.take (cs.length - numbers.length - 1)
  insertAll plain 0x80 0 72 (if plain.isEmpty then cs else numbers)

end ChunkVault.Idna.Punycode
