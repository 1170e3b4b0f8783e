/-!
# Decimal numerals

Numbers are written without a sign for zero and above and without leading zeros. Readers differ
in the sign they admit; all of them want at least one digit and a value in the range asked for.
-/
namespace HbarKit.Decimal

def digit (n : Nat) : Char := Char.ofNat (48 + n)

def digits (n : Nat) : List Char :=
  if n < 10 then [digit n] else digits (n / 10) ++ [digit (n % 10)]

/-- Exactly `width` digits, with zeros in front, of a number below `10 ^ width`. -/
def padded : (width n : Nat) → List Char
  | 0, _ => []
  | width + 1, n => padded width (n / 10) ++ [digit (n % 10)]

def isDigit (c : Char) : Bool := '0' ≤ c && c ≤ '9'

def value (cs : List Char) : Nat := cs.foldl (fun acc c => acc * 10 + (c.toNat - 48)) 0

/-- A nonempty run of digits and nothing else. -/
def natural? (cs : List Char) : Option Nat :=
  if !cs.isEmpty && cs.all isDigit then some (value cs) else none

/-- A numeral with at most a plus sign, no larger than `max`. -/
def unsigned? (max : Nat) (cs : List Char) : Option Nat := do
  let n ← natural? (match cs with
    | '+' :: rest => rest
    | _ => cs)
  if n ≤ max then return n else none

/-- A numeral with an optional sign, from `min` to `max`. -/
def signed? (min max : Int) (cs : List Char) : Option Int := do
  let n ← match cs with
    | '-' :: rest => (natural? rest).map fun n => -(n : Int)
    | '+' :: rest => (natural? rest).map Int.ofNat
    | _ => (natural? cs).map Int.ofNat
  if min ≤ n ∧ n ≤ max then return n else none

def ofNat (n : Nat) : String := String.ofList (digits n)

def intDigits (n : Int) : List Char :=
  if n < 0 then '-' :: digits n.natAbs else digits n.natAbs

def ofInt (n : Int) : String := String.ofList (intDigits n)

end HbarKit.Decimal
