import HbarKit.Json.Fault
import HbarKit.Json.Value

/-!
# Numerals in JSON

A numeral is a minus sign or none, a whole part without leading zeros, and a fraction and an
exponent if they are there. Its digits are read into a number of 64 bits: what does not fit of the
whole part counts as so many zeros, and what does not fit of the fraction does not count.
-/
namespace HbarKit.Json

def digitsOf (cs : List Char) : List Char × List Char := cs.span Decimal.isDigit

/-- What is wrong where a digit is missing, with the text at its end or not. -/
def noDigit (atEnd : Cause) (cs : List Char) : Except Fault α :=
  if cs.isEmpty then faultAt atEnd [] else faultPast .badNumeral cs

/-- Digits read into 64 bits: the number `value * 10 ^ exponent`, and whether no more digits fit. -/
structure Significand where
  value : Nat
  exponent : Int
  isFull : Bool

namespace Significand

/-- One more digit, which changes the exponent by `fits` if it fits and by `lost` if it does not. -/
def push (fits lost : Int) (s : Significand) (c : Char) : Significand :=
  let value := s.value * 10 + (c.toNat - 48)
  if s.isFull || decide (UInt64.size ≤ value) then
    { s with exponent := s.exponent + lost, isFull := true }
  else { s with value, exponent := s.exponent + fits }

def ofWhole (ds : List Char) : Significand := ds.foldl (push 0 1) ⟨0, 0, false⟩

def withFraction (s : Significand) (ds : List Char) : Significand :=
  ds.foldl (push (-1) 0) { s with isFull := false }

end Significand

/-- How many digits of an exponent it takes until it needs more than 31 bits, if it ever does. -/
def exponentOverflow? (ds : List Char) : Option Nat :=
  (List.range (ds.length + 1)).find? fun n => Nat.pow 2 31 ≤ Decimal.value (ds.take n)

def ofParts (negative : Bool) (s : Significand) (rest : List Char) :
    Except Fault (Json × List Char) :=
  match Binary64.ofDecimal? s.value s.exponent with
  | some x => .ok (decimal (x.withSign negative), rest)
  | none => faultAt .numeralRange rest

def exponentOf (negative : Bool) (s : Significand) (cs : List Char) :
    Except Fault (Json × List Char) :=
  let (down, cs) := match cs with
    | '+' :: rest => (false, rest)
    | '-' :: rest => (true, rest)
    | _ => (false, cs)
  let (ds, rest) := digitsOf cs
  if ds.isEmpty then noDigit .endInValue cs
  else
    match exponentOverflow? ds with
    | some n =>
      if s.value ≠ 0 ∧ !down then faultAt .numeralRange (cs.drop n)
      else .ok (decimal ⟨negative, 0, Binary64.minExponent⟩, rest)
    | none =>
      let n : Int := Decimal.value ds
      ofParts negative { s with exponent := s.exponent + if down then -n else n } rest

def behindWhole (negative : Bool) (s : Significand) (cs : List Char) :
    Except Fault (Json × List Char) :=
  match cs with
  | '.' :: rest =>
    let (ds, behind) := digitsOf rest
    if ds.isEmpty then noDigit .endInValue rest
    else
      let s := s.withFraction ds
      match behind with
      | 'e' :: rest | 'E' :: rest => exponentOf negative s rest
      | _ => ofParts negative s behind
  | 'e' :: rest | 'E' :: rest => exponentOf negative s rest
  | _ =>
    let n : Int := if negative then -s.value else s.value
    if !s.isFull && (!negative || (n ≠ 0 && Int64.minValue.toInt ≤ n)) then
      .ok (integer n, cs)
    else ofParts negative s cs

def numeral (negative : Bool) (cs : List Char) : Except Fault (Json × List Char) :=
  let (ds, rest) := digitsOf cs
  match ds with
  | [] => noDigit .endInValue cs
  | '0' :: next :: more => faultPast .badNumeral (next :: more ++ rest)
  | _ => behindWhole negative (.ofWhole ds) rest

def passDigits (cs : List Char) : Except Fault (List Char) :=
  let (ds, rest) := digitsOf cs
  if ds.isEmpty then noDigit .badNumeral cs else .ok rest

def passExponent : List Char → Except Fault (List Char)
  | 'e' :: rest | 'E' :: rest =>
    passDigits (match rest with
      | '+' :: rest | '-' :: rest => rest
      | _ => rest)
  | cs => .ok cs

/-- Passes over a numeral behind its sign. Its value does not matter. -/
def passNumeral (cs : List Char) : Except Fault (List Char) := do
  match cs with
  | '0' :: next :: more =>
    if Decimal.isDigit next then faultPast .badNumeral (next :: more)
  | _ => pure ()
  match ← passDigits cs with
  | '.' :: rest => passExponent (← passDigits rest)
  | rest => passExponent rest

end HbarKit.Json
