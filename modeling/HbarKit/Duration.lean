import HbarKit.Text.Decimal

/-!
# Durations

A duration counts nanoseconds, and a moment is the duration since some start of the clock. What
holds a duration has 64 bits for its whole seconds, so a sum of durations can outgrow it.
-/
namespace HbarKit

/-- A duration in nanoseconds. -/
abbrev Duration := Nat

/-- A reading of a clock that only runs forward. -/
abbrev Moment := Nat

namespace Duration

def nanosPerMilli : Nat := 1000000

def nanosPerSecond : Nat := 1000000000

/-- What holds a duration holds less than this. -/
def limit : Nat := Nat.pow 2 64 * nanosPerSecond

/-- The sum of two durations if it can be held. -/
def add? (a b : Duration) : Option Duration := if a + b < limit then some (a + b) else none

def ofMillis (n : Nat) : Duration := n * nanosPerMilli

def ofSeconds (n : Nat) : Duration := n * nanosPerSecond

def millis (d : Duration) : Nat := d / nanosPerMilli

def seconds (d : Duration) : Nat := d / nanosPerSecond

/-- A number of units and what is left of one unit as a decimal fraction of some digits, of which
zeros at the end are left out. -/
def inUnit (d digits : Nat) (unit : String) : String :=
  let fraction := (Decimal.padded digits (d % Nat.pow 10 digits)).reverse.dropWhile (· = '0')
  Decimal.ofNat (d / Nat.pow 10 digits) ++
    (if fraction.isEmpty then "" else "." ++ String.ofList fraction.reverse) ++ unit

/-- A duration in the largest of seconds, milliseconds, microseconds and nanoseconds of which it
has at least one. -/
def text (d : Duration) : String :=
  if nanosPerSecond ≤ d then inUnit d 9 "s"
  else if nanosPerMilli ≤ d then inUnit d 6 "ms"
  else if 1000 ≤ d then inUnit d 3 "µs"
  else inUnit d 0 "ns"

end Duration

end HbarKit
