import HbarKit.Duration

/-!
# Channel pools

A pool keeps at most one open channel for an address. Getting a channel is a look at the pool and,
if there is none, a connection and its entry into the pool; where several callers connect at a time
the first entry stays and all of them use it.
-/
namespace HbarKit

structure Pool (κ : Type) where
  connectTime : Duration
  channels : List (String × κ)

namespace Pool

def empty (connectTime : Duration) : Pool κ := ⟨connectTime, []⟩

def find? (p : Pool κ) (address : String) : Option κ :=
  (p.channels.find? fun c => c.1 = address).map Prod.snd

/-- Enters a channel for an address that has none, and gives the channel of the address. -/
def enter (p : Pool κ) (address : String) (channel : κ) : κ × Pool κ :=
  match p.find? address with
  | some present => (present, p)
  | none => (channel, { p with channels := p.channels ++ [(address, channel)] })

def evict (p : Pool κ) (address : String) : Pool κ :=
  { p with channels := p.channels.filter fun c => c.1 ≠ address }

def size (p : Pool κ) : Nat := p.channels.length

/-- The channel of an address, opened by `connect` if there is none. A connection that fails leaves
the pool as it was. -/
def get {m : Type → Type} [Monad m] (p : Pool κ) (address : String)
    (connect : Duration → m (Except ε κ)) : m (Except ε κ × Pool κ) := do
  match p.find? address with
  | some channel => return (.ok channel, p)
  | none =>
    match ← connect p.connectTime with
    | .error e => return (.error e, p)
    | .ok channel =>
      let (channel, p) := p.enter address channel
      return (.ok channel, p)

def debugText (p : Pool κ) : String :=
  "ChannelPool \x7b channels: " ++ Decimal.ofNat p.size ++ ", connect_timeout: " ++
    p.connectTime.text ++ " \x7d"

end Pool

end HbarKit
