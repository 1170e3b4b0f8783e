import HbarKit.Transaction.Id
import HbarKit.Transaction.Signature
import HbarKit.Transaction.Transfer
import HbarKit.Wire.Form
import HbarKit.Wire.Status

/-!
# Messages

What travels between a client and a node: signed transactions, requests and responses. Identifiers
travel as text without their checksum.
-/
namespace HbarKit

structure TransactionBody where
  id : TransactionId
  node : EntityId
  fee : Int64
  validSeconds : UInt64
  memo : String
  data : Transfers
  deriving DecidableEq

/-- The bytes of a body and the signatures over them. -/
structure SignedTransaction where
  body : Bytes
  signatures : SignatureMap
  deriving DecidableEq

structure Receipt where
  status : Status
  account : Option EntityId
  token : Option EntityId
  file : Option EntityId
  topic : Option EntityId
  deriving DecidableEq

/-- A receipt of a transaction that made nothing. -/
def Receipt.ofStatus (status : Status) : Receipt := ⟨status, none, none, none, none⟩

inductive Request where
  | submit (transaction : SignedTransaction)
  | receipt (id : TransactionId)
  deriving DecidableEq

structure Response where
  status : Status
  receipt : Option Receipt
  deriving DecidableEq

namespace Wire

def entityId : Form EntityId := .textual EntityId.text fun s => (EntityId.parse s).toOption

def transactionId : Form TransactionId :=
  .textual TransactionId.text fun s => (TransactionId.parse s).toOption

/-- A public key, as the text of its document. -/
def publicKey : Form PublicKey := .textual PublicKey.text fun s => (PublicKey.parse s).toOption

def status : Form Status := .names Status.all Status.name

def ledger : Form Ledger := .names Ledger.all Ledger.name

def scheme : Form Scheme := .names [.ed25519, .ecdsa] Scheme.name

def movement : Form Movement :=
  ((Fields.one "account_id" entityId).and (.one "amount" .signed64)).form.map
    (fun (account, amount) => ⟨account, amount⟩) fun m => (m.account, m.amount)

def tokenMovements : Form TokenMovements :=
  ((Fields.one "token_id" entityId).and (.one "transfers" movement.list)).form.map
    (fun (token, movements) => ⟨token, movements⟩) fun t => (t.token, t.movements)

def transfers : Form Transfers :=
  ((Fields.one "hbar_transfers" movement.list).and
    (.one "token_transfers" tokenMovements.list)).form.map
    (fun (hbars, tokens) => ⟨hbars, tokens⟩) fun t => (t.hbars, t.tokens)

/-- What a transaction does, of which there is one kind. -/
def bodyData : Form Transfers := .single (.holding "CryptoTransfer" transfers)

def body : Form TransactionBody :=
  ((Fields.one "transaction_id" transactionId).and ((Fields.one "node_account_id" entityId).and
    ((Fields.one "transaction_fee" .signed64).and
      ((Fields.one "transaction_valid_duration" .unsigned64).and
        ((Fields.one "memo" .text).and (.one "data" bodyData)))))).form.map
    (fun (id, node, fee, validSeconds, memo, data) => ⟨id, node, fee, validSeconds, memo, data⟩)
    fun b => (b.id, b.node, b.fee, b.validSeconds, b.memo, b.data)

def signature : Form Signature :=
  (Form.either (.holding "Ed25519" .bytes) (.holding "EcdsaSecp256k1" .bytes)).map
    (fun
      | .inl b => ⟨.ed25519, b⟩
      | .inr b => ⟨.ecdsa, b⟩)
    fun s =>
      match s.scheme with
      | .ed25519 => .inl s.bytes
      | .ecdsa => .inr s.bytes

def signaturePair : Form SignaturePair :=
  ((Fields.one "public_key" .bytes).and (.one "signature" signature)).form.map
    (fun (publicKey, signature) => ⟨publicKey, signature⟩) fun p => (p.publicKey, p.signature)

def signatureMap : Form SignatureMap :=
  (Fields.one "pairs" signaturePair.list).form.map SignatureMap.mk SignatureMap.pairs

def signedTransaction : Form SignedTransaction :=
  ((Fields.one "body_bytes" .bytes).and (.one "sig_map" signatureMap)).form.map
    (fun (body, signatures) => ⟨body, signatures⟩) fun t => (t.body, t.signatures)

def transactionList : Form (List SignedTransaction) :=
  (Fields.one "transactions" signedTransaction.list).form

def request : Form Request :=
  (Form.either (.holding "SubmitTransaction" signedTransaction)
    (.fields "GetTransactionReceipt" (.one "transaction_id" transactionId))).map
    (fun
      | .inl t => .submit t
      | .inr id => .receipt id)
    fun
      | .submit t => .inl t
      | .receipt id => .inr id

def receipt : Form Receipt :=
  ((Fields.one "status" status).and ((Fields.maybe "account_id" entityId).and
    ((Fields.maybe "token_id" entityId).and ((Fields.maybe "file_id" entityId).and
      (.maybe "topic_id" entityId))))).form.map
    (fun (status, account, token, file, topic) => ⟨status, account, token, file, topic⟩)
    fun r => (r.status, r.account, r.token, r.file, r.topic)

def responseBody : Form (Option Receipt) :=
  (Form.either (.empty "Empty") (.holding "Receipt" receipt)).map
    (fun
      | .inl _ => none
      | .inr r => some r)
    fun
      | none => .inl ()
      | some r => .inr r

def response : Form Response :=
  ((Fields.one "status" status).and (.one "body" responseBody)).form.map
    (fun (status, receipt) => ⟨status, receipt⟩) fun r => (r.status, r.receipt)

end Wire

end HbarKit
