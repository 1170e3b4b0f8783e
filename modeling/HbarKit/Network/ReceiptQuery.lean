import HbarKit.Network.Submission

/-!
# Receipt queries

A receipt tells what became of a transaction. A query for it goes on while the nodes do not know
yet.
-/
namespace HbarKit

def Verdict.ofReceipt (r : Response) : Verdict :=
  match r.status with
  | .ok =>
    match r.receipt with
    | some receipt => if receipt.status = .unknown then .retry .unknown else .accept
    | none => .accept
  | .busy | .unknown | .receiptNotFound | .platformNotActive => .retry r.status
  | status => .reject status

/-- A question for the receipt of a transaction. No nodes means that a client chooses them. -/
structure ReceiptQuery where
  id : Option TransactionId
  nodes : List EntityId
  deriving DecidableEq

namespace ReceiptQuery

def new : ReceiptQuery := ⟨none, []⟩

def validate (q : ReceiptQuery) (l : Ledger) : Except EntityError Unit := do
  EntityId.validateAll q.nodes l
  match q.id with
  | some id => id.validate l
  | none => pure ()

def inquiry (q : ReceiptQuery) : Inquiry Receipt where
  validate := q.validate
  nodes := q.nodes
  transaction := q.id
  request _ :=
    match q.id with
    | some id => .ok (.receipt id)
    | none => .error (.configuration .noTransactionId)
  verdict := Verdict.ofReceipt
  answer _ r :=
    match r.receipt with
    | some receipt => .ok receipt
    | none => .error (.wire .noReceipt)

def run (host : Host ω κ) (deadline : Option Moment) (q : ReceiptQuery) :
    Run ω κ (Except Error Receipt) :=
  q.inquiry.run host deadline

end ReceiptQuery

/-- The receipt of an accepted transaction from the node that accepted it. It has to be one of
success. -/
def Acceptance.receipt (host : Host ω κ) (a : Acceptance) : Run ω κ (Except Error Receipt) := do
  match ← ReceiptQuery.run host none ⟨some a.id, [a.node]⟩ with
  | .error e => return .error e
  | .ok receipt =>
    if receipt.status = .success then return .ok receipt
    else return .error (.receiptStatus receipt.status a.id)

end HbarKit
