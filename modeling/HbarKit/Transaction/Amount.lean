import HbarKit.Text.Decimal

/-!
# Amounts

Amounts are signed numbers of 64 bits: tinybars, of which a hundred million make an hbar, or the
smallest units of a token. Sums that do not fit are refused, conversions either refuse or stop at
the ends of the range.
-/
namespace HbarKit

/-- An amount in the smallest unit of its kind. -/
abbrev Amount := Int64

namespace Amount

def least : Int := Int64.minValue.toInt

def greatest : Int := Int64.maxValue.toInt

def ofInt? (n : Int) : Option Amount :=
  if least ≤ n ∧ n ≤ greatest then some (Int64.ofInt n) else none

def nearest (n : Int) : Amount := Int64.ofInt (max least (min n greatest))

def tinybarsPerHbar : Int := 100000000

/-- Whole hbars, stopping at the ends of the range. -/
def ofHbars (n : Int) : Amount := nearest (n * tinybarsPerHbar)

def ofHbars? (n : Int) : Option Amount := ofInt? (n * tinybarsPerHbar)

def add? (a b : Amount) : Option Amount := ofInt? (a.toInt + b.toInt)

/-- The opposite amount, where the smallest goes to the largest. -/
def opposite (a : Amount) : Amount := nearest (-a.toInt)

/-- A whole number of hbars is shown in hbars, any other amount in tinybars. -/
def text (a : Amount) : String :=
  if a.toInt % tinybarsPerHbar = 0 then Decimal.ofInt (a.toInt / tinybarsPerHbar) ++ " ℏ"
  else Decimal.ofInt a.toInt ++ " tℏ"

end Amount

end HbarKit
