import HbarKit.Json.Reader
import HbarKit.Network.Client
import HbarKit.Wire.Message

/-!
# Configurations

A client can be described in JSON: its network as an object from addresses to accounts, and what
differs from the settings of a new client. Unknown and repeated fields are refused. The fields may
also be given as an array in their order, of which the last ones may be left out.
-/
namespace HbarKit

structure OperatorEntry where
  account : EntityId
  privateKey : String
  deriving DecidableEq

/-- The operator of a configuration, for people; the key is not shown. -/
def OperatorEntry.debugText (o : OperatorEntry) : String :=
  "OperatorConfig \x7b account_id: " ++ o.account.debugText ++
    ", private_key: \"<redacted>\" \x7d"

/-- A description of a client. Pauses and timeouts are in milliseconds. -/
structure Configuration where
  network : List (String × EntityId)
  ledger : Option Ledger
  operator : Option OperatorEntry
  maxAttempts : Option Nat
  minBackoff : Option Nat
  maxBackoff : Option Nat
  requestTimeout : Option Nat
  attemptTimeout : Option Nat
  validatesChecksums : Option Bool
  deriving DecidableEq

namespace Configuration

/-- The values of fields in their order: the members of an object that has no other and none twice,
or the items of an array that is no longer. -/
def fields? (names : List String) : Json → Option (List (Option Json))
  | .object members =>
    if (members.all fun m => names.contains m.1) && (members.map Prod.fst).Nodup then
      some (names.map fun n => (Json.object members).member? n)
    else none
  | .array items =>
    if items.length ≤ names.length then
      some (items.map some ++ List.replicate (names.length - items.length) none)
    else none
  | _ => none

/-- A field that may be left out or `null`. -/
def optional? (read : Json → Option α) : Option Json → Option (Option α)
  | none | some .null => some none
  | some j => (read j).map some

/-- The entries of a network. The last one for an address counts. -/
def network? : Json → Option (List (String × EntityId))
  | .object members => do
    let entries ← members.mapM fun m => do return (m.1, ← Wire.entityId.ofJson m.2)
    return entries.foldl (fun all e => (all.filter fun a => a.1 ≠ e.1) ++ [e]) []
  | _ => none

def operator? (j : Json) : Option OperatorEntry := do
  match ← fields? ["account_id", "private_key"] j with
  | [account, key] => return ⟨← Wire.entityId.ofJson (← account), ← (← key).text?⟩
  | _ => none

def number? (j : Json) : Option Nat := j.nat? (UInt64.size - 1)

def fieldNames : List String :=
  ["network", "network_name", "operator", "max_attempts", "min_backoff_ms", "max_backoff_ms",
    "request_timeout_ms", "attempt_timeout_ms", "auto_validate_checksums"]

def ofJson? (j : Json) : Option Configuration := do
  match ← fields? fieldNames j with
  | [network, ledger, operator, attempts, least, greatest, request, attempt, validates] =>
    return {
      network := ← network? (← network)
      ledger := ← optional? Wire.ledger.ofJson ledger
      operator := ← optional? operator? operator
      maxAttempts := ← optional? number? attempts
      minBackoff := ← optional? number? least
      maxBackoff := ← optional? number? greatest
      requestTimeout := ← optional? number? request
      attemptTimeout := ← optional? number? attempt
      validatesChecksums := ← optional? Json.bool? validates }
  | _ => none

def parse (text : String) : Except Error Configuration :=
  match Json.parse text with
  | .error f => .error (.configuration (.malformed (f.message text.toList)))
  | .ok j =>
    match ofJson? j with
    | some c => .ok c
    | none => .error (.configuration (.malformed "not a client configuration"))

def settings (c : Configuration) : Settings :=
  let s := Settings.initial
  { s with
    maxAttempts := match c.maxAttempts with
      | some n => max n 1
      | none => s.maxAttempts
    minBackoff := (c.minBackoff.map Duration.ofMillis).getD s.minBackoff
    maxBackoff := (c.maxBackoff.map Duration.ofMillis).getD s.maxBackoff
    requestTimeout := (c.requestTimeout.map Duration.ofMillis).getD s.requestTimeout
    attemptTimeout := (c.attemptTimeout.map Duration.ofMillis).getD s.attemptTimeout
    validatesChecksums := c.validatesChecksums.getD s.validatesChecksums }

end Configuration

namespace Client

/-- The client of a configuration, which has to list a node, have a key for its operator and bound
the pauses in order. -/
def ofConfiguration (c : Configuration) : Except Error (Client κ) := do
  if c.network.isEmpty then throw (.configuration .noNodes)
  let operator ← match c.operator with
    | none => pure none
    | some o => do
      let key ← (PrivateKey.parse o.privateKey).mapError Error.key
      pure (some ⟨o.account, key⟩)
  let settings := c.settings
  if settings.maxBackoff < settings.minBackoff then throw (.configuration .backoffOrder)
  return { ofNetwork c.network with ledger := c.ledger, operator, settings }

/-- The client of a configuration in a file, of which the content or the reason that it cannot be
read is given. -/
def ofConfigurationFile (path : String) (content : Except String String) :
    Except Error (Client κ) := do
  match content with
  | .error reason => throw (.configuration (.unreadable path reason))
  | .ok text => ofConfiguration (← Configuration.parse text)

end Client

end HbarKit
