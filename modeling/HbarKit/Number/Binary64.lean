/-!
# Binary numbers of 53 bits

Numbers that are an integer of at most 53 bits times a power of two within bounds, with a sign,
zeros included. A fraction is rounded to the nearest of them, and to the even one of two that are
equally near. One that would have to be larger than all of them is not rounded at all.
-/
namespace HbarKit

/-- The number `significand * 2 ^ exponent` with its sign. The exponent is the smallest one with
which the significand stays below `2⁵³`, and no smaller than `Binary64.minExponent`. -/
structure Binary64 where
  negative : Bool
  significand : Nat
  exponent : Int
  deriving DecidableEq, Repr

namespace Binary64

def significandBound : Nat := Nat.pow 2 53

def minExponent : Int := -1074

def maxExponent : Int := 971

/-- A fraction rounded to the nearest integer, a half to the even one. -/
def roundDiv (num den : Nat) : Nat :=
  let twice := 2 * (num % den)
  if twice < den ∨ (twice = den ∧ num / den % 2 = 0) then num / den else num / den + 1

def scaled (num den : Nat) (exponent : Int) : Nat × Nat :=
  if exponent < 0 then (num * Nat.pow 2 exponent.natAbs, den)
  else (num, den * Nat.pow 2 exponent.natAbs)

/-- The exponent with which a fraction has a significand of 53 bits. -/
def exponentOf (num den : Nat) : Int :=
  let guess : Int := (num.log2 : Int) - den.log2 - 52
  let (a, b) := scaled num den guess
  if 2 * a < significandBound * b then guess - 1 else guess

def ofRatio? (num den : Nat) : Option Binary64 :=
  if num = 0 then some ⟨false, 0, minExponent⟩
  else
    let exponent := max minExponent (exponentOf num den)
    let (a, b) := scaled num den exponent
    let rounded := roundDiv a b
    let (significand, exponent) :=
      if rounded = significandBound then (significandBound / 2, exponent + 1)
      else (rounded, exponent)
    if maxExponent < exponent then none else some ⟨false, significand, exponent⟩

def ratio (x : Binary64) : Nat × Nat := scaled x.significand 1 (-x.exponent)

/-- The number nearest to the product of two, unless that is too large. Signs do not count. -/
def mul? (x y : Binary64) : Option Binary64 :=
  ofRatio? (x.ratio.1 * y.ratio.1) (x.ratio.2 * y.ratio.2)

def div? (x y : Binary64) : Option Binary64 :=
  ofRatio? (x.ratio.1 * y.ratio.2) (x.ratio.2 * y.ratio.1)

def tenPow? (n : Nat) : Option Binary64 := ofRatio? (Nat.pow 10 n) 1

def maxTenPow : Nat := 308

/-- A number divided by another one so many times, or until it is zero. -/
def divRepeated? (y : Binary64) : (times : Nat) → Binary64 → Option Binary64
  | 0, x => some x
  | times + 1, x =>
    if x.significand = 0 then some x
    else
      match x.div? y with
      | some z => divRepeated? y times z
      | none => none

/-- A number divided by a power of ten: by the largest one as often as it takes, and then by what is
left. -/
def lower? (x : Binary64) (n : Nat) : Option Binary64 := do
  let times := (n - 1) / maxTenPow
  let y ← divRepeated? (← tenPow? maxTenPow) times x
  y.div? (← tenPow? (n - times * maxTenPow))

/-- A natural number times a power of ten. The number, the power and their product are rounded one
after another, so that the result is not always the nearest one. -/
def ofDecimal? (significand : Nat) (exponent : Int) : Option Binary64 := do
  let x ← ofRatio? significand 1
  if exponent < 0 then lower? x exponent.natAbs
  else if exponent ≤ maxTenPow then mul? x (← tenPow? exponent.natAbs)
  else if x.significand = 0 then return x
  else none

def withSign (negative : Bool) (x : Binary64) : Binary64 := { x with negative }

end Binary64

end HbarKit
