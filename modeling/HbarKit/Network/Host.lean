import HbarKit.Network.Client

/-!
# The world outside a client

A client meets the world in few ways: it reads a clock and a calendar, draws numbers, looks whether
its caller wants it to stop, waits, opens channels and exchanges bytes over them. All of them may
change the world. A run is what a client does in a world, with the client changed on the way.
-/
namespace HbarKit

/-- A world of states `ω` with channels `κ`. -/
structure Host (ω κ : Type) where
  /-- The time on a clock that only runs forward. -/
  now : ω → Moment × ω
  /-- The nanoseconds since 1970. -/
  date : ω → Int × ω
  random : ω → Nat × ω
  isCancelled : ω → Bool × ω
  /-- Waits, but no longer than until the caller asks to stop, and tells whether that happened. -/
  wait : Duration → ω → Bool × ω
  connect : String → Duration → ω → Except TransportError κ × ω
  /-- Sends bytes over a channel and waits for an answer within a time. -/
  send : κ → Bytes → Duration → ω → Except TransportError Bytes × ω

structure Session (ω κ : Type) where
  client : Client κ
  outside : ω

abbrev Run (ω κ α : Type) := StateM (Session ω κ) α

namespace Run

def outside (act : ω → α × ω) : Run ω κ α := fun s =>
  let (a, w) := act s.outside
  (a, { s with outside := w })

def modifyClient (change : Client κ → Client κ) : Run ω κ Unit :=
  modify fun s => { s with client := change s.client }

def client : Run ω κ (Client κ) := do return (← get).client

def draw (host : Host ω κ) : Nat → Run ω κ (List Nat)
  | 0 => return []
  | n + 1 => do
    let first ← outside host.random
    return first :: (← draw host n)

/-- The items in an order that choices make: each choice picks one of the items that are left. -/
def arrange : (choices : List Nat) → List α → List α
  | [], items => items
  | choice :: choices, items =>
    match items[choice % items.length]? with
    | some item => item :: arrange choices (items.eraseIdx (choice % items.length))
    | none => items

def shuffle (host : Host ω κ) (items : List α) : Run ω κ (List α) := do
  return arrange (← draw host items.length) items

/-- Up to `count` nodes in an order by chance, benched ones behind all others. -/
def sample (host : Host ω κ) (count : Nat) : Run ω κ (List Node) := do
  let now ← outside host.now
  let (healthy, benched) := (← client).nodes.partition fun n => n.isHealthy now
  let healthy ← shuffle host healthy
  let benched ← shuffle host benched
  return (healthy ++ benched).take count

end Run

end HbarKit
