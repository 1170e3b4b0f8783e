import HbarKit.Duration
import HbarKit.Entity.Id

/-!
# Nodes

A node is an account with an address. A node that fails is benched: for eight seconds the first
time, twice as long each time after, and never for more than an hour. A success forgets all
failures. A benched node is not lost; it comes after the others.
-/
namespace HbarKit

/-- How a node has done: its failures since its last success and when it may be asked again. -/
structure Health where
  failures : Nat
  readmission : Option Moment
  deriving DecidableEq, Repr

namespace Health

def good : Health := ⟨0, none⟩

def minBench : Duration := Duration.ofSeconds 8

def maxBench : Duration := Duration.ofSeconds 3600

/-- The bench time of a failure after so many others. -/
def benchTime (failures : Nat) : Duration := min (minBench * Nat.pow 2 failures) maxBench

def fail (h : Health) (now : Moment) : Duration × Health :=
  let bench := benchTime h.failures
  (bench, ⟨h.failures + 1, some (now + bench)⟩)

def isGood (h : Health) (now : Moment) : Bool :=
  match h.readmission with
  | none => true
  | some t => t ≤ now

end Health

structure Node where
  account : EntityId
  address : String
  health : Health
  deriving DecidableEq, Repr

namespace Node

def new (account : EntityId) (address : String) : Node := ⟨account, address, .good⟩

def isHealthy (n : Node) (now : Moment) : Bool := n.health.isGood now

def bench (n : Node) (now : Moment) : Duration × Node :=
  let (time, health) := n.health.fail now
  (time, { n with health })

def readmit (n : Node) : Node := { n with health := .good }

/-- Nodes are ordered by their accounts, and those of one account by their addresses. -/
def compare (a b : Node) : Ordering :=
  (a.account.address.compare b.account.address).then (Ord.compare a.address b.address)

end Node

end HbarKit
