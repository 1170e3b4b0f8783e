import HbarKit.Wire.Message
import HbarKit.Proofs.Transaction.IdText
import HbarKit.Proofs.Wire.RoundTrip

/-!
# Reading messages of a client and a node back

Identifiers travel without their checksums, so a message is read back as the message with all
checksums left out, unless it holds the name of a transaction whose instant is not regular: that is
written, but it cannot be read. Signed transactions hold bytes and no identifiers, and are read back
as they are.
-/
namespace HbarKit

/-- The movement with an account that carries no checksum. -/
def Movement.bare (m : Movement) : Movement := { m with account := m.account.bare }

/-- The movements of a token without checksums. -/
def TokenMovements.bare (t : TokenMovements) : TokenMovements :=
  ⟨t.token.bare, t.movements.map Movement.bare⟩

/-- The transfer without checksums. -/
def Transfers.bare (t : Transfers) : Transfers :=
  ⟨t.hbars.map Movement.bare, t.tokens.map TokenMovements.bare⟩

/-- The body without checksums. -/
def TransactionBody.bare (b : TransactionBody) : TransactionBody :=
  { b with id := b.id.bare, node := b.node.bare, data := b.data.bare }

/-- What is read of a body: the body without checksums, if its name can be read. -/
def TransactionBody.back (b : TransactionBody) : Option TransactionBody :=
  if b.id.validStart.Regular then some b.bare else none

/-- The request without checksums. -/
def Request.bare : Request → Request
  | submit transaction => submit transaction
  | receipt id => receipt id.bare

/-- The instants that a request holds are regular. -/
def Request.Regular : Request → Prop
  | submit _ => True
  | receipt id => id.validStart.Regular

instance (r : Request) : Decidable r.Regular := by
  cases r <;> unfold Request.Regular <;> infer_instance

/-- What is read of a request: the request without checksums, if the name in it can be read. -/
def Request.back (r : Request) : Option Request := if r.Regular then some r.bare else none

/-- The receipt without checksums. -/
def Receipt.bare (r : Receipt) : Receipt where
  status := r.status
  account := r.account.map EntityId.bare
  token := r.token.map EntityId.bare
  file := r.file.map EntityId.bare
  topic := r.topic.map EntityId.bare

/-- The response without checksums. -/
def Response.bare (r : Response) : Response := { r with receipt := r.receipt.map Receipt.bare }

theorem Status.mem_all (s : Status) : s ∈ Status.all := by
  cases s <;> decide

namespace Wire

/-! ## Bodies -/

theorem lawful_entityId : entityId.Lawful fun id => some id.bare :=
  (Form.lawful_textual _ _).congr fun id => by rw [EntityId.parse_text]; rfl

theorem lawful_transactionId :
    transactionId.Lawful fun id => if id.validStart.Regular then some id.bare else none :=
  (Form.lawful_textual _ _).congr fun id => by rw [TransactionId.parse_text]; split <;> rfl

theorem write_entityId_ne_nil (id : EntityId) : entityId.write id ≠ [] :=
  Form.write_textual_ne_nil _ _ id

theorem lawful_movement : movement.Lawful fun m => some m.bare := by
  have hfields := Fields.lawful_and (Fields.lawful_one lawful_entityId "account_id")
    (Fields.lawful_one Form.lawful_signed64 "amount")
  exact Form.lawful_map (Fields.lawful_form hfields) _ _

theorem write_movement_ne_nil (m : Movement) : movement.write m ≠ [] :=
  Fields.write_and_ne_nil write_entityId_ne_nil _ _

theorem lawful_tokenMovements : tokenMovements.Lawful fun t => some t.bare := by
  have hfields := Fields.lawful_and (Fields.lawful_one lawful_entityId "token_id")
    (Fields.lawful_one (Form.lawful_list_some _ lawful_movement write_movement_ne_nil) "transfers")
  exact Form.lawful_map (Fields.lawful_form hfields) _ _

theorem write_tokenMovements_ne_nil (t : TokenMovements) : tokenMovements.write t ≠ [] :=
  Fields.write_and_ne_nil write_entityId_ne_nil _ _

theorem lawful_transfers : transfers.Lawful fun t => some t.bare := by
  have hhbars := Form.lawful_list_some _ lawful_movement write_movement_ne_nil
  have htokens := Form.lawful_list_some _ lawful_tokenMovements write_tokenMovements_ne_nil
  have hfields := Fields.lawful_and (Fields.lawful_one hhbars "hbar_transfers")
    (Fields.lawful_one htokens "token_transfers")
  exact Form.lawful_map (Fields.lawful_form hfields) _ _

theorem lawful_bodyData : bodyData.Lawful fun t => some t.bare :=
  Form.lawful_single (Case.lawful_holding lawful_transfers _)

/-- A body is read back without its checksums if its name can be read. -/
theorem lawful_body : body.Lawful TransactionBody.back := by
  have hdata := Fields.lawful_one lawful_bodyData "data"
  have hmemo := Fields.lawful_and (Fields.lawful_one Form.lawful_text "memo") hdata
  have hvalid := Fields.lawful_and
    (Fields.lawful_one Form.lawful_unsigned64 "transaction_valid_duration") hmemo
  have hfee := Fields.lawful_and (Fields.lawful_one Form.lawful_signed64 "transaction_fee") hvalid
  have hnode := Fields.lawful_and (Fields.lawful_one lawful_entityId "node_account_id") hfee
  have hid := Fields.lawful_and (Fields.lawful_one lawful_transactionId "transaction_id") hnode
  refine (Form.lawful_map (Fields.lawful_form hid) _ _).congr fun b => ?_
  by_cases h : b.id.validStart.Regular
  · simp only [Fields.backAnd, TransactionBody.back, if_pos h]
    rfl
  · simp only [Fields.backAnd, TransactionBody.back, if_neg h]
    rfl

/-! ## Signed transactions -/

theorem lawful_signature : signature.Lawful some := by
  have hcases := Form.lawful_either (Case.lawful_holding Form.lawful_bytes "Ed25519")
    (Case.lawful_holding Form.lawful_bytes "EcdsaSecp256k1")
  refine (Form.lawful_map hcases _ _).congr ?_
  rintro ⟨scheme, b⟩
  cases scheme <;> rfl

theorem lawful_signaturePair : signaturePair.Lawful some := by
  have hfields := Fields.lawful_and (Fields.lawful_one Form.lawful_bytes "public_key")
    (Fields.lawful_one lawful_signature "signature")
  exact Form.lawful_map (Fields.lawful_form hfields) _ _

theorem write_signaturePair_ne_nil (p : SignaturePair) : signaturePair.write p ≠ [] :=
  Fields.write_and_ne_nil Form.write_bytes_ne_nil _ _

theorem lawful_signatureMap : signatureMap.Lawful some := by
  have hlist := Form.lawful_list_some id lawful_signaturePair write_signaturePair_ne_nil
  have hpairs := Fields.lawful_one hlist "pairs"
  refine (Form.lawful_map (Fields.lawful_form hpairs) _ _).congr ?_
  simp

theorem lawful_signedTransaction : signedTransaction.Lawful some := by
  have hfields := Fields.lawful_and (Fields.lawful_one Form.lawful_bytes "body_bytes")
    (Fields.lawful_one lawful_signatureMap "sig_map")
  exact Form.lawful_map (Fields.lawful_form hfields) _ _

theorem write_signedTransaction_ne_nil (t : SignedTransaction) : signedTransaction.write t ≠ [] :=
  Fields.write_and_ne_nil Form.write_bytes_ne_nil _ _

theorem lawful_transactionList : transactionList.Lawful some := by
  have hlist :=
    Form.lawful_list_some id lawful_signedTransaction write_signedTransaction_ne_nil
  exact (Fields.lawful_form (Fields.lawful_one hlist "transactions")).congr (by simp)

/-! ## Requests and responses -/

theorem lawful_request : request.Lawful Request.back := by
  have hcases := Form.lawful_either
    (Case.lawful_holding lawful_signedTransaction "SubmitTransaction")
    (Case.lawful_fields (Fields.lawful_one lawful_transactionId "transaction_id")
      "GetTransactionReceipt")
  refine (Form.lawful_map hcases _ _).congr ?_
  rintro (transaction | id)
  · rfl
  · by_cases h : id.validStart.Regular
    · have hregular : (Request.receipt id).Regular := h
      simp only [Form.backEither, Request.back, if_pos h, if_pos hregular]
      rfl
    · have hregular : ¬ (Request.receipt id).Regular := h
      simp only [Form.backEither, Request.back, if_neg h, if_neg hregular]
      rfl

theorem lawful_status : status.Lawful some := Form.lawful_names Status.mem_all (by decide) _

theorem lawful_maybe_entityId (name : String) :
    (Fields.maybe name entityId).Lawful fun id => some (id.map EntityId.bare) := by
  refine Form.Lawful.congr (Fields.lawful_maybe lawful_entityId name) ?_
  rintro (_ | id) <;> rfl

theorem lawful_receipt : receipt.Lawful fun r => some r.bare := by
  have htopic := lawful_maybe_entityId "topic_id"
  have hfile := Fields.lawful_and (lawful_maybe_entityId "file_id") htopic
  have htoken := Fields.lawful_and (lawful_maybe_entityId "token_id") hfile
  have haccount := Fields.lawful_and (lawful_maybe_entityId "account_id") htoken
  have hstatus := Fields.lawful_and (Fields.lawful_one lawful_status "status") haccount
  exact Form.lawful_map (Fields.lawful_form hstatus) _ _

theorem lawful_responseBody : responseBody.Lawful fun r => some (r.map Receipt.bare) := by
  have hcases := Form.lawful_either (Case.lawful_empty "Empty")
    (Case.lawful_holding lawful_receipt "Receipt")
  refine (Form.lawful_map hcases _ _).congr ?_
  rintro (_ | r) <;> rfl

theorem lawful_response : response.Lawful fun r => some r.bare := by
  have hfields := Fields.lawful_and (Fields.lawful_one lawful_status "status")
    (Fields.lawful_one lawful_responseBody "body")
  exact Form.lawful_map (Fields.lawful_form hfields) _ _

end Wire

end HbarKit
