/-
# ChunkVault.Text.Binary64 -- floating-point numbers of 64 bits, and their shortest text

A finite number is a mantissa below 2^53 times a power of two that is at least -1074. A decimal number
stands for the nearest of these, of two equally near ones the one with the even mantissa. The text of a
number has the fewest digits that stand for it again, and of those the nearest.
-/
import ChunkVault.Text.Decimal

namespace ChunkVault.Text

/-- A floating-point number of 64 bits. -/
inductive Binary64 where
  /-- The number `mantissa * 2 ^ exponent`, or its negative. -/
  | finite (isNegative : Bool) (mantissa : Nat) (exponent : Int)
  | infinite (isNegative : Bool)
  | nan
deriving DecidableEq

/-- A quotient rounded to the nearest whole number; a tie goes to the even one. -/
def roundDiv (num den : Nat) : Nat :=
  let q := num / den
  let r := num % den
  if 2 * r < den then q
  else if den < 2 * r then q + 1
  else if q % 2 = 0 then q else q + 1

/-- The quotient `num / den * base ^ shift`, as a numerator and a denominator. -/
def scale (base num den : Nat) (shift : Int) : Nat × Nat :=
  if 0 ≤ shift then (num * Nat.pow base shift.toNat, den)
  else (num, den * Nat.pow base (-shift).toNat)

namespace Binary64

/-- The least exponent. -/
def minExponent : Int := -1074

/-- The greatest exponent. -/
def maxExponent : Int := 971

/-- The whole part of the binary logarithm of a positive quotient. -/
def log2Quotient (num den : Nat) : Int :=
  let e : Int := (num.log2 : Int) - den.log2
  let (n, d) := scale 2 num den (-e)
  if d ≤ n then e else e - 1

/-- The number nearest to a quotient. -/
def ofQuotient (isNegative : Bool) (num den : Nat) : Binary64 :=
  let exponent := max (log2Quotient num den - 52) minExponent
  let (n, d) := scale 2 num den (-exponent)
  let mantissa := roundDiv n d
  let (mantissa, exponent) :=
    if mantissa = Nat.pow 2 53 then (Nat.pow 2 52, exponent + 1) else (mantissa, exponent)
  if maxExponent < exponent then .infinite isNegative else .finite isNegative mantissa exponent

/-- The number nearest to `digits * 10 ^ exponent`. Whatever has its first digit far outside of the range
is settled by that alone. -/
def ofDecimal (isNegative : Bool) (digits : Nat) (exponent : Int) : Binary64 :=
  let magnitude : Int := (toString digits).length + exponent
  if digits = 0 ∨ magnitude < -400 then .finite isNegative 0 minExponent
  else if 400 < magnitude then .infinite isNegative
  else
    let (num, den) := scale 10 digits 1 exponent
    ofQuotient isNegative num den

/-! ## The shortest text -/

/-- The ends of the interval of numbers that round to `mantissa * 2 ^ exponent`, in quarters of the last
place: below a power of two the next number is only half as far away. -/
def halfGaps (mantissa : Nat) (exponent : Int) : Nat × Nat :=
  if mantissa = Nat.pow 2 52 ∧ minExponent < exponent then (1, 2) else (2, 2)

/-- Whether `digits * 10 ^ grid` rounds to `mantissa * 2 ^ exponent`. -/
def standsFor (mantissa : Nat) (exponent : Int) (digits : Nat) (grid : Int) : Bool :=
  let (below, above) := halfGaps mantissa exponent
  -- Both sides are multiplied until they are whole: the number by four, and either by its power.
  let (n, d) := scale 10 (4 * digits) 1 grid
  let (n, d) := scale 2 n d (-exponent)
  if mantissa % 2 = 0 then (4 * mantissa - below) * d ≤ n ∧ n ≤ (4 * mantissa + above) * d
  else (4 * mantissa - below) * d < n ∧ n < (4 * mantissa + above) * d

/-- Of the two neighbours on a decimal grid the one that stands for the number; if both do, the nearer,
and of two equally near ones the greater. -/
def onGrid? (mantissa : Nat) (exponent : Int) (grid : Int) : Option Nat :=
  let (n, d) := scale 2 mantissa 1 exponent
  let (n, d) := scale 10 n d (-grid)
  let low := n / d
  let lowIsNearer := 2 * (n % d) < d
  match standsFor mantissa exponent low grid, standsFor mantissa exponent (low + 1) grid with
  | true, true => some (if lowIsNearer then low else low + 1)
  | true, false => some low
  | false, true => some (low + 1)
  | false, false => none

/-- The exponent of ten of the first digit of a positive quotient, plus one; found from an estimate that
is too great by searching downwards. -/
def pointOf (num den : Nat) : Nat → Int → Int
  | 0, point => point
  | fuel + 1, point =>
    let (n, d) := scale 10 num den (-(point - 1))
    if d ≤ n then point else pointOf num den fuel (point - 1)

/-- The fewest digits that stand for a positive number, and the exponent of ten of the last of them. -/
def shortest (mantissa : Nat) (exponent : Int) : Nat × Int :=
  let (num, den) := scale 2 mantissa 1 exponent
  let point := pointOf num den 700 330
  let found := (List.range 17).findSome? fun (i : Nat) =>
    let grid := point - (i + 1 : Nat)
    (onGrid? mantissa exponent grid).map fun digits => (digits, grid)
  found.getD (mantissa, exponent)

/-- The digits of a number with a decimal point before digit number `point`, and zeros where there are no
digits. -/
def positional (digits : List Char) (point : Int) : List Char :=
  let count : Int := digits.length
  if point ≤ 0 then ['0', '.'] ++ List.replicate (-point).toNat '0' ++ digits
  else if count ≤ point then digits ++ List.replicate (point - count).toNat '0' ++ ['.', '0']
  else digits.take point.toNat ++ ['.'] ++ digits.drop point.toNat

/-- The text of a number: never with an exponent, and always with a point if it is finite. -/
def text : Binary64 → String
  | .nan => "NaN"
  | .infinite negative => if negative then "-inf" else "inf"
  | .finite negative mantissa exponent =>
    let sign := if negative then ['-'] else []
    if mantissa = 0 then String.ofList (sign ++ ['0', '.', '0'])
    else
      let (digits, grid) := shortest mantissa exponent
      let all := (toString digits).toList
      let point := grid + all.length
      let kept := (all.reverse.dropWhile (· = '0')).reverse
      String.ofList (sign ++ positional kept point)

end Binary64
end ChunkVault.Text
