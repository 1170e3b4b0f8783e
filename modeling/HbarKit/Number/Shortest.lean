import HbarKit.Number.Binary64
import HbarKit.Text.Decimal

/-!
# The shortest text of a binary number

A binary number is written with the fewest digits that no other number is nearer to, and of the
texts with so few digits the nearest one. For a count of digits there are two candidates: the
decimal numbers of so many digits next to the number on both sides.
-/
namespace HbarKit.Binary64

/-- The numbers that round to a binary number: fractions over one denominator. -/
structure Interval where
  low : Nat
  middle : Nat
  high : Nat
  den : Nat
  closed : Bool

/-- The interval of a number that is not zero. The gap below a power of two is half of the one
above it, unless the number is one of the smallest. -/
def interval (x : Binary64) : Interval :=
  let half := if x.significand = significandBound / 2 ∧ minExponent < x.exponent then 1 else 2
  let (unit, den) := scaled 1 1 (2 - x.exponent)
  { low := (4 * x.significand - half) * unit
    middle := 4 * x.significand * unit
    high := (4 * x.significand + 2) * unit
    den
    closed := x.significand % 2 = 0 }

/-- The decimal number `digits * 10 ^ exponent`. -/
structure Candidate where
  digits : Nat
  exponent : Int
  deriving DecidableEq, Repr

def tenScaled (num den : Nat) (exponent : Int) : Nat × Nat :=
  if exponent < 0 then (num * Nat.pow 10 exponent.natAbs, den)
  else (num, den * Nat.pow 10 exponent.natAbs)

def Interval.contains (i : Interval) (d : Candidate) : Bool :=
  let (low, den) := tenScaled i.low i.den d.exponent
  let (high, _) := tenScaled i.high i.den d.exponent
  let n := d.digits * den
  if i.closed then low ≤ n && n ≤ high else low < n && n < high

def Interval.nearest? (i : Interval) (exponent : Int) : Option Candidate :=
  let (middle, den) := tenScaled i.middle i.den exponent
  let below : Candidate := ⟨middle / den, exponent⟩
  let above : Candidate := ⟨middle / den + 1, exponent⟩
  let twice := 2 * (middle % den)
  let candidates :=
    if twice < den ∨ (twice = den ∧ below.digits % 2 = 0) then [below, above] else [above, below]
  candidates.find? i.contains

/-- The exponent of the first digit of a fraction, from a guess that may be too large by one. -/
def firstExponent (num den : Nat) : Int :=
  let guess : Int :=
    if num < den then -((Decimal.digits (den / num)).length : Int) + 1
    else (Decimal.digits (num / den)).length - 1
  let (a, b) := tenScaled num den guess
  if a < b then guess - 1 else guess

/-- The decimal number with the fewest digits of those whose last digit stands at most `count`
places in front of the 17th one. -/
def Interval.shortest (i : Interval) (first : Int) : (count : Nat) → Candidate
  | 0 => (i.nearest? (first - 16)).getD ⟨0, 0⟩
  | count + 1 =>
    match i.nearest? (first - 16 + (count + 1 : Nat)) with
    | some d => d
    | none => i.shortest first count

def shortest (x : Binary64) : List Char × Int :=
  let i := x.interval
  let d := i.shortest (firstExponent i.middle i.den) 16
  let all := Decimal.digits d.digits
  let digits := (all.reverse.dropWhile (· = '0')).reverse
  (digits, d.exponent + all.length - 1)

/-- The exponents of a first digit with which a number is written without an exponent. -/
def plainExponents : Int × Int := (-5, 15)

def plain (digits : List Char) (exponent : Int) : List Char :=
  if exponent < 0 then
    ['0', '.'] ++ List.replicate (exponent.natAbs - 1) '0' ++ digits
  else
    let whole := exponent.natAbs + 1
    let fraction := digits.drop whole
    digits.take whole ++ List.replicate (whole - digits.length) '0' ++ '.' ::
      (if fraction.isEmpty then ['0'] else fraction)

def scientific (digits : List Char) (exponent : Int) : List Char :=
  let point := if digits.length < 2 then [] else ['.']
  digits.take 1 ++ point ++ digits.drop 1 ++ 'e' :: (if exponent < 0 then '-' else '+') ::
    Decimal.digits exponent.natAbs

def chars (x : Binary64) : List Char :=
  let sign := if x.negative then ['-'] else []
  if x.significand = 0 then sign ++ ['0', '.', '0']
  else
    let (digits, exponent) := x.shortest
    sign ++
      (if plainExponents.1 ≤ exponent ∧ exponent ≤ plainExponents.2 then plain digits exponent
      else scientific digits exponent)

end HbarKit.Binary64
