import HbarKit.Duration
import HbarKit.Error
import HbarKit.Hash.Sha512
import HbarKit.Wire.Message

/-!
# The life of a transaction

A transaction is a draft, frozen or executed. All of a draft can be set, and some of it may be left
open. Freezing settles what is open and writes one copy of the body for each node; from then on only
signatures are added. An executed transaction stays as it is.
-/
namespace HbarKit

/-- A transaction of which all can still be set. No nodes means that a client chooses them. -/
structure Draft where
  id : Option TransactionId
  nodes : List EntityId
  fee : Option Amount
  memo : String
  validFor : Duration
  transfers : Transfers
  deriving DecidableEq

structure Terms where
  id : TransactionId
  fee : Amount
  memo : String
  validFor : Duration
  transfers : Transfers
  deriving DecidableEq

def Terms.bodyFor (t : Terms) (node : EntityId) : TransactionBody where
  id := t.id
  node
  fee := t.fee
  validSeconds := UInt64.ofNat t.validFor.seconds
  memo := t.memo
  data := t.transfers

structure NodeCopy where
  node : EntityId
  body : Bytes
  signatures : SignatureMap
  deriving DecidableEq

namespace NodeCopy

def signed (c : NodeCopy) : SignedTransaction := ⟨c.body, c.signatures⟩

/-- The copy with the signature of a key, which is made only if the key has not signed yet. -/
def sign (c : NodeCopy) (key : PublicKey) (signer : Bytes → Bytes) : NodeCopy :=
  if c.signatures.contains key then c
  else { c with signatures := c.signatures.push key (signer c.body) }

def hash (c : NodeCopy) : Except Error Bytes :=
  match Wire.encode? Wire.signedTransaction c.signed with
  | some b => .ok (Hash.sha384.digest b)
  | none => .error (.wire .tooLong)

end NodeCopy

structure Frozen where
  terms : Terms
  nodes : List EntityId
  copies : List NodeCopy
  deriving DecidableEq

namespace Frozen

/-- The copy for the node of an account, the first of them if it was named several times. -/
def copyFor (f : Frozen) (account : EntityId) : Except Error NodeCopy :=
  match f.copies.find? fun c => c.node.same account with
  | some c => .ok c
  | none => .error (.configuration (.notPreparedFor account))

def sign (f : Frozen) (key : PublicKey) (signer : Bytes → Bytes) : Frozen :=
  { f with copies := f.copies.map fun c => c.sign key signer }

def toBytes (f : Frozen) : Except Error Bytes :=
  match Wire.encode? Wire.transactionList (f.copies.map NodeCopy.signed) with
  | some b => .ok b
  | none => .error (.wire .tooLong)

end Frozen

namespace Terms

def copyFor (t : Terms) (node : EntityId) : Except Error NodeCopy :=
  match Wire.encode? Wire.body (t.bodyFor node) with
  | some body => .ok ⟨node, body, .empty⟩
  | none => .error (.wire .tooLong)

def freezeFor (t : Terms) (nodes : List EntityId) : Except Error Frozen := do
  return ⟨t, nodes, ← nodes.mapM t.copyFor⟩

end Terms

namespace Draft

def defaultValidFor : Duration := Duration.ofSeconds 120

def defaultFee : Amount := 100000000

def maxMemoBytes : Nat := 100

def new : Draft := ⟨none, [], none, "", defaultValidFor, .empty⟩

def terms (d : Draft) (id : TransactionId) (fee : Amount) : Terms :=
  ⟨id, fee, d.memo, d.validFor, d.transfers⟩

def freeze (d : Draft) : Except Error Frozen := do
  match d.id with
  | none => throw .payerUnset
  | some id =>
    if d.nodes.isEmpty then throw .nodesUnset
    (d.terms id (d.fee.getD defaultFee)).freezeFor d.nodes

def setMemo (d : Draft) (memo : String) : Except Error Draft :=
  if maxMemoBytes < memo.utf8ByteSize then .error (.memoTooLong memo.utf8ByteSize maxMemoBytes)
  else .ok { d with memo }

def addHbar (d : Draft) (account : EntityId) (amount : Amount) : Except Error Draft :=
  match d.transfers.addHbar? ⟨account, amount⟩ with
  | some transfers => .ok { d with transfers }
  | none => .error (.overflow account)

def addToken (d : Draft) (token account : EntityId) (amount : Amount) : Except Error Draft :=
  match d.transfers.addToken? token ⟨account, amount⟩ with
  | some transfers => .ok { d with transfers }
  | none => .error (.overflow account)

end Draft

inductive Transaction where
  | draft (d : Draft)
  | frozen (f : Frozen)
  | executed (f : Frozen)
  deriving DecidableEq

namespace Transaction

def new : Transaction := draft .new

def isFrozen : Transaction → Bool
  | draft _ => false
  | frozen _ | executed _ => true

def id? : Transaction → Option TransactionId
  | draft d => d.id
  | frozen f | executed f => some f.terms.id

def nodes : Transaction → List EntityId
  | draft d => d.nodes
  | frozen f | executed f => f.nodes

def fee? : Transaction → Option Amount
  | draft d => d.fee
  | frozen f | executed f => some f.terms.fee

def memo : Transaction → String
  | draft d => d.memo
  | frozen f | executed f => f.terms.memo

def validFor : Transaction → Duration
  | draft d => d.validFor
  | frozen f | executed f => f.terms.validFor

def transfers : Transaction → Transfers
  | draft d => d.transfers
  | frozen f | executed f => f.terms.transfers

/-- The copies for its nodes, of which a draft has none. -/
def copies : Transaction → List NodeCopy
  | draft _ => []
  | frozen f | executed f => f.copies

/-- All identifiers have to validate on the ledger: that of the payer, those of the nodes and those
of what is moved. -/
def validate (t : Transaction) (l : Ledger) : Except EntityError Unit := do
  match t.id? with
  | some id => id.validate l
  | none => pure ()
  EntityId.validateAll t.nodes l
  t.transfers.validate l

def edit (t : Transaction) (change : Draft → Except Error Draft) : Except Error Transaction :=
  match t with
  | draft d => do return draft (← change d)
  | frozen _ | executed _ => .error .frozen

def setId (t : Transaction) (id : TransactionId) : Except Error Transaction :=
  t.edit fun d => .ok { d with id := some id }

/-- Names the nodes, or leaves them open again if there are none. -/
def setNodes (t : Transaction) (nodes : List EntityId) : Except Error Transaction :=
  t.edit fun d => .ok { d with nodes }

def setFee (t : Transaction) (fee : Amount) : Except Error Transaction :=
  t.edit fun d => .ok { d with fee := some fee }

def setMemo (t : Transaction) (memo : String) : Except Error Transaction :=
  t.edit fun d => d.setMemo memo

def setValidFor (t : Transaction) (validFor : Duration) : Except Error Transaction :=
  t.edit fun d => .ok { d with validFor }

def addHbar (t : Transaction) (account : EntityId) (amount : Amount) : Except Error Transaction :=
  t.edit fun d => d.addHbar account amount

def addToken (t : Transaction) (token account : EntityId) (amount : Amount) :
    Except Error Transaction :=
  t.edit fun d => d.addToken token account amount

/-- Freezes a draft that leaves neither its name nor its nodes open. A frozen transaction stays as
it is. -/
def freeze : Transaction → Except Error Transaction
  | draft d => do return frozen (← d.freeze)
  | frozen f => .ok (frozen f)
  | executed _ => .error .executed

def signWith (t : Transaction) (key : PublicKey) (signer : Bytes → Bytes) :
    Except Error Transaction :=
  match t with
  | draft d => do return frozen ((← d.freeze).sign key signer)
  | frozen f => .ok (frozen (f.sign key signer))
  | executed _ => .error .executed

/-- Signs every copy with a key, after freezing a draft. -/
def sign (t : Transaction) (key : PrivateKey) : Except Error Transaction :=
  t.signWith key.publicKey fun body => (key.sign body).bytes

/-- The bytes of the list of all copies, of a draft as they are when it is frozen. -/
def toBytes : Transaction → Except Error Bytes
  | draft d => do (← d.freeze).toBytes
  | frozen f | executed f => f.toBytes

/-- An entry for a node put in the place of an entry for the same node, or behind the others. -/
def putEntry (node : EntityId) (a : α) : List (EntityId × α) → List (EntityId × α)
  | [] => [(node, a)]
  | entry :: rest =>
    if entry.1.same node then (entry.1, a) :: rest else entry :: putEntry node a rest

/-- The signatures by node and by signer. Of several copies for one node the last one counts. -/
def signatures (t : Transaction) : List (EntityId × List (PublicKey × Bytes)) :=
  t.copies.foldl
    (fun all c =>
      putEntry c.node
        (c.signatures.pairs.filterMap fun p => p.signer?.map fun key => (key, p.signature.bytes))
        all)
    []

def amounts (movements : List Movement) : List (EntityId × Amount) :=
  movements.foldl (fun all m => putEntry m.account m.amount all) []

def hbarAmounts (t : Transaction) : List (EntityId × Amount) := amounts t.transfers.hbars

def tokenAmounts (t : Transaction) : List (EntityId × List (EntityId × Amount)) :=
  t.transfers.tokens.foldl (fun all l => putEntry l.token (amounts l.movements) all) []

end Transaction

end HbarKit
