import HbarKit.Network.Inquiry
import HbarKit.Transaction.Lifecycle

/-!
# Submissions

A client settles what a draft leaves open: its operator pays, its nodes are sampled, and its fee
applies. It signs for its operator and puts the transaction to the nodes, each of which gets its own
copy. A transaction that a node has accepted is executed.
-/
namespace HbarKit

/-- That a node has accepted a transaction, which does not mean that it will succeed: the name of
the transaction, the account of the node and the digest of the copy it got. -/
structure Acceptance where
  id : TransactionId
  node : EntityId
  hash : Bytes
  deriving DecidableEq

def Verdict.ofSubmission (r : Response) : Verdict :=
  match r.status with
  | .ok => .accept
  | .busy | .platformTransactionNotCreated | .platformNotActive => .retry r.status
  | status => .reject status

def Frozen.inquiry (f : Frozen) : Inquiry Acceptance where
  validate := (Transaction.frozen f).validate
  nodes := f.nodes
  transaction := some f.terms.id
  request account := do
    let copy ← f.copyFor account
    let _ ← copy.hash
    return .submit copy.signed
  verdict := Verdict.ofSubmission
  answer account _ := do return ⟨f.terms.id, account, ← (← f.copyFor account).hash⟩

namespace Draft

/-- The name of a draft, or a new one that the operator of the client pays for. -/
def chooseId (host : Host ω κ) (d : Draft) : Run ω κ (Except Error TransactionId) := do
  match d.id, (← Run.client).operator with
  | some id, _ => return .ok id
  | none, none => return .error .payerUnset
  | none, some operator =>
    let now ← Run.outside host.date
    let jitter ← Run.outside host.random
    return .ok (TransactionId.generate operator.account now jitter)

def chooseNodes (host : Host ω κ) (d : Draft) : Run ω κ (Except Error (List EntityId)) := do
  match d.nodes with
  | [] =>
    match ← Run.sample host (← Run.client).settings.maxNodes with
    | [] => return .error .noNodes
    | nodes => return .ok (nodes.map Node.account)
  | nodes => return .ok nodes

def freezeWith (host : Host ω κ) (d : Draft) : Run ω κ (Except Error Frozen) := do
  match ← d.chooseId host with
  | .error e => return .error e
  | .ok id =>
    match ← d.chooseNodes host with
    | .error e => return .error e
    | .ok nodes =>
      let fee := (d.fee <|> (← Run.client).settings.defaultFee).getD defaultFee
      return (d.terms id fee).freezeFor nodes

end Draft

/-- The transaction with the signature of an operator, if it is the operator who pays. -/
def Frozen.signByPayer (f : Frozen) : Option Operator → Frozen
  | some operator =>
    if f.terms.id.account.same operator.account then
      f.sign operator.key.publicKey fun body => (operator.key.sign body).bytes
    else f
  | none => f

namespace Transaction

def freezeWith (host : Host ω κ) : Transaction → Run ω κ (Except Error Transaction)
  | draft d => do return (← d.freezeWith host).map frozen
  | frozen f => return .ok (frozen f)
  | executed _ => return .error .executed

def signWithOperator (host : Host ω κ) (t : Transaction) : Run ω κ (Except Error Transaction) := do
  match (← Run.client).operator with
  | none => return .error (.configuration .noOperator)
  | some operator =>
    match ← t.freezeWith host with
    | .error e => return .error e
    | .ok t => return t.sign operator.key

/-- Freezes a draft, signs for the operator of the client if it is the payer, and puts the
transaction to the nodes. The result comes with the transaction after it. -/
def execute (host : Host ω κ) (deadline : Option Moment) (t : Transaction) :
    Run ω κ (Except Error Acceptance × Transaction) := do
  match ← t.freezeWith host with
  | .error e => return (.error e, t)
  | .ok (frozen f) =>
    let f := f.signByPayer (← Run.client).operator
    match ← f.inquiry.run host deadline with
    | .ok acceptance => return (.ok acceptance, executed f)
    | .error e => return (.error e, frozen f)
  | .ok t => return (.error .executed, t)

end Transaction

end HbarKit
