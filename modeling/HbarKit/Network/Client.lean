import HbarKit.Error
import HbarKit.Key.Private
import HbarKit.Network.Node
import HbarKit.Network.Pool
import HbarKit.Network.Settings

/-!
# Clients

A client knows the nodes of a network, the ledger that checksums are checked against, the account
that pays unless told otherwise, and its settings. The order of its nodes does not depend on the
order in which they were listed.
-/
namespace HbarKit

structure Operator where
  account : EntityId
  key : PrivateKey
  deriving DecidableEq

/-- A client whose open channels are of a type `κ`. -/
structure Client (κ : Type) where
  nodes : List Node
  pool : Pool κ
  ledger : Option Ledger
  operator : Option Operator
  settings : Settings

namespace Client

def connectTime : Duration := Duration.ofSeconds 5

/-- The client of a network, given as the account of each address. -/
def ofNetwork (network : List (String × EntityId)) : Client κ where
  nodes :=
    (network.map fun (address, account) => Node.new account address).mergeSort fun a b =>
      (a.compare b).isLE
  pool := .empty connectTime
  ledger := none
  operator := none
  settings := .initial

def accounts (c : Client κ) : List EntityId := c.nodes.map Node.account

/-- The node of an account: the first of them, if it has several addresses. -/
def nodeOf (c : Client κ) (account : EntityId) : Except Error Node :=
  match c.nodes.find? fun n => n.account.same account with
  | some n => .ok n
  | none => .error (.configuration (.unknownNode account))

def nodesOf (c : Client κ) (accounts : List EntityId) : Except Error (List Node) :=
  accounts.mapM c.nodeOf

def nodeAt? (c : Client κ) (address : String) : Option Node :=
  c.nodes.find? fun n => n.address = address

def isHealthy (c : Client κ) (now : Moment) (address : String) : Bool :=
  match c.nodeAt? address with
  | some n => n.isHealthy now
  | none => true

def atNode (c : Client κ) (address : String) (change : Node → Node) : Client κ :=
  { c with nodes := c.nodes.map fun n => if n.address = address then change n else n }

def bench (c : Client κ) (now : Moment) (address : String) : Client κ :=
  c.atNode address fun n => (n.bench now).2

def readmit (c : Client κ) (address : String) : Client κ := c.atNode address Node.readmit

def evict (c : Client κ) (address : String) : Client κ :=
  { c with pool := c.pool.evict address }

def withSettings (c : Client κ) (change : Settings → Settings) : Client κ :=
  { c with settings := change c.settings }

def debugText (c : Client κ) : String :=
  "Client \x7b nodes: [" ++ String.intercalate ", " (c.accounts.map EntityId.debugText) ++
    "], network_name: " ++
    (match c.ledger with
      | some .mainnet => "Some(Mainnet)"
      | some .testnet => "Some(Testnet)"
      | some .previewnet => "Some(Previewnet)"
      | none => "None") ++
    ", operator: " ++
    (match c.operator with
      | some operator => "Some(" ++ operator.account.debugText ++ ")"
      | none => "None") ++
    ", settings: " ++ c.settings.debugText ++ " \x7d"

end Client

end HbarKit
