import HbarKit.Entity.Id

/-!
# Transaction identifiers

A transaction is named by the account that pays for it and the instant from which it is valid. The
written form is `account@seconds.nanoseconds`, then `?scheduled` for a scheduled transaction, then
a nonce behind a slash.
-/
namespace HbarKit

/-- An instant as a calendar of the proleptic Gregorian years −262143 to 262142 can hold it: whole
seconds since 1970 and nanoseconds, which may run over a full second. -/
structure Instant where
  seconds : Int
  nanos : Nat
  seconds_le : -8334601228800 ≤ seconds ∧ seconds ≤ 8210266876799
  nanos_lt : nanos < 2000000000
  deriving DecidableEq

namespace Instant

/-- The nanoseconds run over a full second only in the last second of a minute, where there can be a
leap second. Other instants can be set, but not made out of two numbers. -/
def Regular (t : Instant) : Prop := t.nanos < 1000000000 ∨ t.seconds % 60 = 59

instance (t : Instant) : Decidable t.Regular := inferInstanceAs (Decidable (_ ∨ _))

def of? (seconds : Int) (nanos : Nat) : Option Instant :=
  if h : (-8334601228800 ≤ seconds ∧ seconds ≤ 8210266876799) ∧
      (nanos < 1000000000 ∨ nanos < 2000000000 ∧ seconds % 60 = 59) then
    some ⟨seconds, nanos, h.1, by omega⟩
  else none

/-- The instant some nanoseconds after 1970, or the end of the calendar nearest to it. -/
def ofNanos (t : Int) : Instant where
  seconds := max (-8334601228800) (min (t / 1000000000) 8210266876799)
  nanos := (t % 1000000000).toNat
  seconds_le := by omega
  nanos_lt := by omega

end Instant

structure TransactionId where
  account : EntityId
  validStart : Instant
  nonce : Option Int32
  scheduled : Bool
  deriving DecidableEq

namespace TransactionId

/-- An instant as it is written: its seconds and, with nine digits or more, its nanoseconds. -/
def instantChars (t : Instant) : List Char :=
  Decimal.intDigits t.seconds ++
    '.' :: Decimal.padded (max 9 (Decimal.digits t.nanos).length) t.nanos

def scheduledMark : List Char := "?scheduled".toList

def nonceChars : Option Int32 → List Char
  | some n => '/' :: Decimal.intDigits n.toInt
  | none => []

def chars (id : TransactionId) : List Char :=
  id.account.address.chars ++
    '@' :: (instantChars id.validStart ++ (if id.scheduled then scheduledMark else []) ++
      nonceChars id.nonce)

def text (id : TransactionId) : String := String.ofList id.chars

def debugText (id : TransactionId) : String := "\"" ++ id.text ++ "\""

/-- Two names are of one transaction when they agree up to the checksum of the account. -/
def same (a b : TransactionId) : Bool :=
  a.account.same b.account && a.validStart == b.validStart && a.nonce == b.nonce &&
    a.scheduled == b.scheduled

def validate (id : TransactionId) (l : Ledger) : Except EntityError Unit := id.account.validate l

def numbers? (cs : List Char) : Option (Int × Nat) := do
  let (seconds, nanos) ← Text.cut '.' cs
  let seconds ← Decimal.signed? Int64.minValue.toInt Int64.maxValue.toInt seconds
  let nanos ← Decimal.unsigned? (UInt32.size - 1) nanos
  return (seconds, nanos)

def instant? (cs : List Char) : Option Instant := do
  let (seconds, nanos) ← numbers? cs
  Instant.of? seconds nanos

/-- What is before a nonce behind the last slash, and the nonce if there is a slash. -/
def cutNonce? (cs : List Char) : Option (List Char × Option Int32) :=
  match Text.cutLast '/' cs with
  | some (front, nonce) =>
    (Decimal.signed? Int32.minValue.toInt Int32.maxValue.toInt nonce).map fun n =>
      (front, some (Int32.ofInt n))
  | none => some (cs, none)

def cutMark (cs : List Char) : List Char × Bool :=
  match Text.dropEnding? scheduledMark cs with
  | some front => (front, true)
  | none => (cs, false)

/-- The part of a written name behind the account: an instant, a mark for scheduled transactions
and a nonce behind the last slash. -/
def details? (cs : List Char) : Option (Instant × Option Int32 × Bool) := do
  let (cs, nonce) ← cutNonce? cs
  let (cs, scheduled) := cutMark cs
  return (← instant? cs, nonce, scheduled)

/-- Reads a written name. A fault of the account is reported as such, any other one with the whole
text. -/
def parse (s : String) : Except EntityError TransactionId :=
  match Text.cut '@' s.toList with
  | none => .error (.malformed s)
  | some (account, rest) => do
    let account ← EntityId.parse (String.ofList account)
    match details? rest with
    | some (validStart, nonce, scheduled) => .ok ⟨account, validStart, nonce, scheduled⟩
    | none => .error (.malformed s)

/-- How long before its making a new name becomes valid, so that a node whose clock is late does
not take it for one from the future. -/
def backdateNanos : Int := 8000000000

def jitterLimitMs : Nat := 5000

/-- A new name made at a time `now` after 1970 with `jitter` as the choice of extra backdating. -/
def generate (account : EntityId) (nowNanos : Int) (jitter : Nat) : TransactionId where
  account
  validStart :=
    Instant.ofNanos (nowNanos - backdateNanos - (jitter % jitterLimitMs : Nat) * 1000000)
  nonce := none
  scheduled := false

end TransactionId

end HbarKit
