import HbarKit.Duration
import HbarKit.Transaction.Amount

/-!
# Settings

How often and how long a client tries. The pause after an attempt doubles with every attempt and
stays between two bounds.
-/
namespace HbarKit

structure Settings where
  maxAttempts : Nat
  minBackoff : Duration
  maxBackoff : Duration
  requestTimeout : Duration
  attemptTimeout : Duration
  maxNodes : Nat
  defaultFee : Option Amount
  validatesChecksums : Bool
  deriving DecidableEq

namespace Settings

def initial : Settings where
  maxAttempts := 10
  minBackoff := Duration.ofMillis 250
  maxBackoff := Duration.ofSeconds 8
  requestTimeout := Duration.ofSeconds 120
  attemptTimeout := Duration.ofSeconds 10
  maxNodes := 3
  defaultFee := none
  validatesChecksums := true

/-- How many times the shortest pause the pause after an attempt is: a power of two while it fits
32 bits, and from there on the largest number of 32 bits. -/
def backoffFactor (attempt : Nat) : Nat :=
  if attempt - 1 < 32 then Nat.pow 2 (attempt - 1) else UInt32.size - 1

/-- The pause after an attempt, the first of which has the number one. -/
def backoff (s : Settings) (attempt : Nat) : Duration :=
  min (s.minBackoff * backoffFactor attempt) s.maxBackoff

def leastTimeout : Duration := Duration.ofMillis 1

def timeoutAfter (s : Settings) (elapsed : Duration) : Duration :=
  max leastTimeout (min s.attemptTimeout (s.requestTimeout - elapsed))

def setMaxAttempts (s : Settings) (n : Nat) : Settings := { s with maxAttempts := max n 1 }

/-- Bounds the pauses. A lower bound above the upper one is taken down to it. -/
def setBackoff (s : Settings) (least greatest : Duration) : Settings :=
  { s with minBackoff := min least greatest, maxBackoff := greatest }

def setMaxNodes (s : Settings) (n : Nat) : Settings := { s with maxNodes := max n 1 }

def debugText (s : Settings) : String :=
  "ClientSettings \x7b max_attempts: " ++ Decimal.ofNat s.maxAttempts ++
    ", min_backoff: " ++ s.minBackoff.text ++ ", max_backoff: " ++ s.maxBackoff.text ++
    ", request_timeout: " ++ s.requestTimeout.text ++
    ", attempt_timeout: " ++ s.attemptTimeout.text ++
    ", max_nodes_per_transaction: " ++ Decimal.ofNat s.maxNodes ++
    ", default_max_transaction_fee: " ++
    (match s.defaultFee with
      | some fee => "Some(Hbar(" ++ Decimal.ofInt fee.toInt ++ "))"
      | none => "None") ++
    ", auto_validate_checksums: " ++ (if s.validatesChecksums then "true" else "false") ++ " \x7d"

end Settings

end HbarKit
