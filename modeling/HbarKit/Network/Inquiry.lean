import HbarKit.Network.Host
import HbarKit.Wire.Message

/-!
# Inquiries

An inquiry is put to nodes again and again until one of them answers for good. Nodes take turns,
benched ones only if no other is left. What goes wrong on the way to a node or with its answer is
tried again after a pause, as long as attempts and time are left. The caller can stop an inquiry
between two attempts, at once or by a deadline. An inquiry breaks off where the end of a pause is
too far off for a duration.
-/
namespace HbarKit

inductive Verdict where
  | accept
  | retry (status : Status)
  | reject (status : Status)
  deriving DecidableEq, Repr

/-- What is asked of nodes, with answers of a type `α`. -/
structure Inquiry (α : Type) where
  validate : Ledger → Except EntityError Unit
  /-- The accounts of the nodes to ask. If there are none the client chooses. -/
  nodes : List EntityId
  transaction : Option TransactionId
  request : EntityId → Except Error Request
  verdict : Response → Verdict
  /-- The answer in an accepted response of the node of an account. -/
  answer : EntityId → Response → Except Error α

def Wire.decode (f : Wire.Form α) (b : Bytes) : Except Error α :=
  match Wire.decode? f b with
  | some a => .ok a
  | none => .error (.wire .unreadable)

structure Reply where
  node : Node
  response : Except Error Response

inductive Attempt (α : Type) where
  | ended (result : Except Error α)
  | failed (last : Error)

namespace Inquiry

def bytes (q : Inquiry α) (account : EntityId) : Except Error Bytes := do
  match Wire.encode? Wire.request (← q.request account) with
  | some b => return b
  | none => throw (.wire .tooLong)

def rejection (q : Inquiry α) (status : Status) (node : Node) : Error :=
  .rejected status node.account q.transaction

/-- If the client checks identifiers and knows its ledger, all of them have to validate. -/
def check (q : Inquiry α) (c : Client κ) : Except Error Unit :=
  match c.settings.validatesChecksums, c.ledger with
  | true, some ledger => (q.validate ledger).mapError .entity
  | _, _ => .ok ()

def candidates (host : Host ω κ) (q : Inquiry α) : Run ω κ (Except Error (List Node)) := do
  let c ← Run.client
  match q.nodes with
  | [] =>
    match ← Run.sample host c.settings.maxNodes with
    | [] => return .error .noNodes
    | nodes => return .ok nodes
  | accounts => return c.nodesOf accounts

/-- Why the inquiry has to stop now: the caller asked for it, or the deadline has passed. -/
def stop? (host : Host ω κ) (deadline : Option Moment) : Run ω κ (Option Error) := do
  if ← Run.outside host.isCancelled then return some .cancelled
  match deadline with
  | none => return none
  | some deadline =>
    if deadline ≤ (← Run.outside host.now) then return some .deadlinePassed else return none

/-- The node whose turn it is, or the next one that is not benched. -/
def pick (host : Host ω κ) (nodes : List Node) (turn : Nat) : Run ω κ (Option Node) := do
  let now ← Run.outside host.now
  let c ← Run.client
  let order := nodes.rotateLeft turn
  return (order.find? fun n => c.isHealthy now n.address) <|> order.head?

def exchange (host : Host ω κ) (node : Node) (request : Bytes) (timeout : Duration) :
    Run ω κ (Except Error Response) := do
  let (channel, pool) ← (← Run.client).pool.get node.address fun time =>
    Run.outside (host.connect node.address time)
  Run.modifyClient fun c => { c with pool }
  match channel with
  | .error e => return .error (.transport e)
  | .ok channel =>
    match ← Run.outside (host.send channel request timeout) with
    | .error e => return .error (.transport e)
    | .ok answer => return Wire.decode Wire.response answer

def judge (host : Host ω κ) (q : Inquiry α) (node : Node) (response : Response) :
    Run ω κ (Attempt α) := do
  match q.verdict response with
  | .accept =>
    Run.modifyClient fun c => c.readmit node.address
    return .ended (q.answer node.account response)
  | .reject status => return .ended (.error (q.rejection status node))
  | .retry status =>
    if status = .busy ∨ status = .platformNotActive then
      let now ← Run.outside host.now
      Run.modifyClient fun c => c.bench now node.address
    return .failed (q.rejection status node)

def ask (host : Host ω κ) (q : Inquiry α) (settings : Settings) (nodes : List Node)
    (deadline : Option Moment) (start : Moment) (turn : Nat) : Run ω κ (Except Error Reply) := do
  match ← stop? host deadline with
  | some e => return .error e
  | none =>
    match ← pick host nodes turn with
    | none => return .error .noNodes
    | some node =>
      match q.bytes node.account with
      | .error e => return .error e
      | .ok request =>
        let elapsed := (← Run.outside host.now) - start
        return .ok ⟨node, ← exchange host node request (settings.timeoutAfter elapsed)⟩

/-- An attempt. A node with which the exchange fails is benched and loses its channel. -/
def attempt (host : Host ω κ) (q : Inquiry α) (settings : Settings) (nodes : List Node)
    (deadline : Option Moment) (start : Moment) (turn : Nat) : Run ω κ (Attempt α) := do
  match ← ask host q settings nodes deadline start turn with
  | .error e => return .ended (.error e)
  | .ok ⟨node, .ok response⟩ => judge host q node response
  | .ok ⟨node, .error e⟩ =>
    let now ← Run.outside host.now
    Run.modifyClient fun c => (c.bench now node.address).evict node.address
    return .failed e

/-- Waits between two attempts, and tells why the inquiry has to stop if it has to: the caller asked
for it, or the pause reaches the deadline, which cuts it short. -/
def pause (host : Host ω κ) (deadline : Option Moment) (time : Duration) :
    Run ω κ (Option Error) := do
  match deadline with
  | none => return if ← Run.outside (host.wait time) then some .cancelled else none
  | some deadline =>
    let left := deadline - (← Run.outside host.now)
    if ← Run.outside (host.wait (min time left)) then return some .cancelled
    else if left ≤ time then return some .deadlinePassed
    else return none

/-- Why no time is left for a pause and an attempt when some time has passed, if none is left. -/
def outOfTime? (settings : Settings) (elapsed time : Duration) (last : Error) : Option Error :=
  match Duration.add? elapsed time with
  | none => some .timeOverflow
  | some sum => if settings.requestTimeout ≤ sum then some (.timeSpent elapsed last) else none

/-- Attempts from the one with the number `turn + 1` on, with `left` attempts behind it. -/
def attempts (host : Host ω κ) (q : Inquiry α) (settings : Settings) (nodes : List Node)
    (deadline : Option Moment) (start : Moment) : (left turn : Nat) → Run ω κ (Except Error α)
  | left, turn => do
    match ← attempt host q settings nodes deadline start turn with
    | .ended result => return result
    | .failed last =>
      match left with
      | 0 => return .error (.attemptsSpent (turn + 1) last)
      | left + 1 =>
        let time := settings.backoff (turn + 1)
        let elapsed := (← Run.outside host.now) - start
        match outOfTime? settings elapsed time last with
        | some e => return .error e
        | none =>
          match ← pause host deadline time with
          | some e => return .error e
          | none => attempts host q settings nodes deadline start left (turn + 1)

/-- Puts an inquiry to nodes. The settings are those at the start. -/
def run (host : Host ω κ) (q : Inquiry α) (deadline : Option Moment) :
    Run ω κ (Except Error α) := do
  let c ← Run.client
  match q.check c with
  | .error e => return .error e
  | .ok () =>
    match ← q.candidates host with
    | .error e => return .error e
    | .ok nodes =>
      let start ← Run.outside host.now
      attempts host q c.settings nodes deadline start (c.settings.maxAttempts - 1) 0

end Inquiry

end HbarKit
