import HbarKit.Network.Inquiry
import HbarKit.Proofs.Wire.Message

/-!
# Messages end where they end

A reader looks only at the bytes that it takes, so what it gives does not change when more bytes
follow. With the law of reading back this makes messages strict: no message is the beginning of
another one, and bytes behind a message are not passed over.
-/
namespace HbarKit.Wire

/-- What a reader gives does not change when more bytes follow; they are left with the rest. -/
def Steady (read : Bytes → Option (α × Bytes)) : Prop :=
  ∀ b a rest, read b = some (a, rest) → ∀ more, read (b ++ more) = some (a, rest ++ more)

/-! ## Readers -/

/-- A value that is given, or refused, whatever the bytes are. -/
theorem steady_given (a : Option α) : Steady fun b => a.bind fun a => some (a, b) := by
  intro b x rest h more
  obtain ⟨a, rfl, h⟩ := Option.bind_eq_some_iff.mp h
  cases h
  rfl

theorem steady_none : Steady fun _ => (none : Option (α × Bytes)) := by
  intro b a rest h
  cases h

theorem Steady.bind {read : Bytes → Option (α × Bytes)} {next : α → Bytes → Option (β × Bytes)}
    (hread : Steady read) (hnext : ∀ a, Steady (next a)) :
    Steady fun b => (read b).bind fun p => next p.1 p.2 := by
  intro b c rest h more
  obtain ⟨⟨a, behind⟩, ha, hc⟩ := Option.bind_eq_some_iff.mp h
  simp only [hread b a behind ha more, Option.bind_some]
  exact hnext a behind c rest hc more

theorem Steady.map {read : Bytes → Option (α × Bytes)} (hread : Steady read) (f : α → β) :
    Steady fun b => (read b).map fun p => (f p.1, p.2) := by
  intro b c rest h more
  obtain ⟨⟨a, behind⟩, ha, hc⟩ := Option.map_eq_some_iff.mp h
  cases hc
  simp only [hread b a behind ha more, Option.map_some]

theorem Steady.ite {p : Prop} [Decidable p] {read other : Bytes → Option (α × Bytes)}
    (hread : Steady read) (hother : Steady other) :
    Steady fun b => if p then read b else other b := by
  by_cases h : p
  · simpa only [if_pos h] using hread
  · simpa only [if_neg h] using hother

theorem steady_splitAt? (n : Nat) : Steady (splitAt? n) := by
  intro b front rest h more
  simp only [splitAt?] at h ⊢
  split at h
  · rename_i hle
    cases h
    rw [if_pos (by rw [List.length_append]; omega), List.take_append_of_le_length hle,
      List.drop_append_of_le_length hle]
  · cases h

theorem steady_readNat (width : Nat) : Steady (readNat width) :=
  (steady_splitAt? width).map Bytes.toNatLE

/-! ## Forms -/

namespace Form

/-- A form whose reader is steady. -/
def Steady (f : Form α) : Prop := Wire.Steady f.read

theorem steady_unsigned64 : unsigned64.Steady := (steady_readNat 8).map UInt64.ofNat

theorem steady_signed64 : signed64.Steady :=
  (steady_readNat 8).map fun n => (UInt64.ofNat n).toInt64

theorem steady_bytes : bytes.Steady := (steady_readNat 8).bind steady_splitAt?

theorem steady_text : text.Steady :=
  steady_bytes.bind fun front => steady_given (Bytes.toString? front)

theorem steady_textual (display : α → String) (parse : String → Option α) :
    (textual display parse).Steady :=
  steady_text.bind fun s => steady_given (parse s)

theorem Steady.map {f : Form α} (hf : f.Steady) (there : α → β) (back : β → α) :
    (f.map there back).Steady :=
  Wire.Steady.map hf there

theorem steady_readMany {read : Bytes → Option (α × Bytes)} (hread : Wire.Steady read)
    (count : Nat) : Wire.Steady (readMany read count) := by
  induction count with
  | zero => exact steady_given (some [])
  | succ count ih => exact hread.bind fun a => ih.bind fun as => steady_given (some (a :: as))

theorem Steady.list {f : Form α} (hf : f.Steady) : f.list.Steady :=
  (steady_readNat 8).bind (steady_readMany hf)

theorem Steady.option {f : Form α} (hf : f.Steady) : f.option.Steady := by
  intro b a rest h more
  simp only [Form.option] at h
  split at h
  · cases h
    rfl
  · exact Wire.Steady.map hf some _ a rest h more
  · cases h

theorem steady_names [BEq α] (all : List α) (name : α → String) : (names all name).Steady :=
  (steady_readNat 4).bind fun n => steady_given all[n]?

end Form

namespace Fields

/-- Fields whose reader is steady. -/
def Steady (fs : Fields α) : Prop := Wire.Steady fs.read

theorem steady_one {f : Form α} (hf : f.Steady) (name : String) : (one name f).Steady := hf

theorem steady_maybe {f : Form α} (hf : f.Steady) (name : String) : (maybe name f).Steady :=
  hf.option

theorem Steady.and {a : Fields α} {b : Fields β} (ha : a.Steady) (hb : b.Steady) :
    (a.and b).Steady :=
  ha.bind fun x => hb.bind fun y => steady_given (some (x, y))

theorem Steady.form {fs : Fields α} (hfs : fs.Steady) : fs.form.Steady := hfs

end Fields

namespace Case

/-- A case whose reader is steady. -/
def Steady (c : Case α) : Prop := Wire.Steady c.read

theorem steady_empty (name : String) : (empty name).Steady := steady_given (some ())

theorem steady_holding {f : Form α} (hf : f.Steady) (name : String) : (holding name f).Steady := hf

theorem steady_fields {fs : Fields α} (hfs : fs.Steady) (name : String) :
    (fields name fs).Steady := hfs

end Case

namespace Form

theorem steady_single {c : Case α} (hc : c.Steady) : (single c).Steady :=
  (steady_readNat 4).bind fun n => Wire.Steady.ite (p := n = 0) hc steady_none

theorem steady_either {a : Case α} {b : Case β} (ha : a.Steady) (hb : b.Steady) :
    (either a b).Steady := by
  have hleft := Wire.Steady.map ha (Sum.inl : α → α ⊕ β)
  have hright := Wire.Steady.map hb (Sum.inr : β → α ⊕ β)
  exact (steady_readNat 4).bind fun n =>
    hleft.ite (p := n = 0) (hright.ite (p := n = 1) steady_none)

/-! ## Strict forms -/

/-- Messages of a form are written if and only if they are not too long. What was written is read
back, up to what is left out in writing, or is unreadable if there is nothing to be read of it; and
neither a part from its front nor the whole with more bytes behind is a message. -/
structure Strict (f : Form α) (back : α → Option α) : Prop where
  written_iff : ∀ m, (encode? f m).isSome ↔ (f.write m).length ≤ 4 * 1024 * 1024
  read : ∀ m b found, encode? f m = some b → back m = some found → decode f b = .ok found
  unreadable : ∀ m b, encode? f m = some b → back m = none →
    decode f b = .error (.wire .unreadable)
  cut : ∀ m front behind, encode? f m = some (front ++ behind) → behind ≠ [] →
    decode f front = .error (.wire .unreadable)
  extended : ∀ m b more, encode? f m = some b → more ≠ [] →
    decode f (b ++ more) = .error (.wire .unreadable)

theorem decode_eq_ok_iff {f : Form α} {b : Bytes} {m : α} :
    decode f b = .ok m ↔ decode? f b = some m := by
  unfold decode
  split <;> simp_all

/-- A message that is accepted is the whole of its bytes. -/
theorem read_of_decode {f : Form α} {b : Bytes} {m : α} (h : decode f b = .ok m) :
    f.read b = some (m, []) := by
  have h := decode_eq_ok_iff.mp h
  unfold decode? at h
  split at h
  · split at h
    · rename_i hread
      cases h
      exact hread
    · cases h
  · cases h

/-- What is no message is unreadable. -/
theorem decode_eq_error {f : Form α} {b : Bytes} (h : ∀ m, f.read b ≠ some (m, [])) :
    decode f b = .error (.wire .unreadable) := by
  cases hfound : decode? f b with
  | none => simp only [decode, hfound]
  | some m => exact absurd (read_of_decode (decode_eq_ok_iff.mpr hfound)) (h m)

theorem Strict.of_lawful {f : Form α} {back : α → Option α} (hlaw : f.Lawful back)
    (hsteady : f.Steady) : f.Strict back := by
  -- The whole is read, or refused, in front of any bytes.
  have hread : ∀ m b more, encode? f m = some b →
      f.read (b ++ more) = (back m).map fun found => (found, more) := by
    intro m b more hm
    obtain ⟨rfl, hle⟩ := length_le_of_encode? hm
    exact hlaw m more (lt_of_le_of_lt hle (by decide))
  constructor
  · intro m
    constructor
    · intro h
      obtain ⟨b, hb⟩ := Option.isSome_iff_exists.mp h
      obtain ⟨rfl, hle⟩ := length_le_of_encode? hb
      exact hle
    · intro h
      have hle : (f.write m).length ≤ maxMessageBytes := h
      rw [encode?, if_pos hle]
      rfl
  · intro m b found hm hback
    exact decode_eq_ok_iff.mpr ((decode?_of_encode? hlaw hm).trans hback)
  · intro m b hm hback
    apply decode_eq_error
    intro found hfound
    have hwhole := hread m b [] hm
    rw [List.append_nil, hfound, hback] at hwhole
    cases hwhole
  · intro m front behind hm hbehind
    apply decode_eq_error
    intro found hfound
    -- A part that is a message would leave the rest of the whole unread.
    have hpart := hsteady front found [] hfound behind
    have hwhole := hread m _ [] hm
    rw [List.append_nil, hpart] at hwhole
    obtain ⟨_, _, hrest⟩ := Option.map_eq_some_iff.mp hwhole.symm
    cases hrest
    exact hbehind rfl
  · intro m b more hm hmore
    apply decode_eq_error
    intro found hfound
    rw [hread m b more hm] at hfound
    obtain ⟨_, _, hrest⟩ := Option.map_eq_some_iff.mp hfound
    cases hrest
    exact hmore rfl

end Form

/-! ## Messages -/

theorem steady_entityId : entityId.Steady := Form.steady_textual _ _

theorem steady_transactionId : transactionId.Steady := Form.steady_textual _ _

theorem steady_movement : movement.Steady :=
  ((Fields.steady_one steady_entityId _).and
    (Fields.steady_one Form.steady_signed64 _)).form.map _ _

theorem steady_tokenMovements : tokenMovements.Steady := by
  have hmovements := Fields.steady_one steady_movement.list "transfers"
  exact ((Fields.steady_one steady_entityId _).and hmovements).form.map _ _

theorem steady_transfers : transfers.Steady := by
  have hhbars := Fields.steady_one steady_movement.list "hbar_transfers"
  have htokens := Fields.steady_one steady_tokenMovements.list "token_transfers"
  exact (hhbars.and htokens).form.map _ _

theorem steady_body : body.Steady := by
  have hdata := Fields.steady_one
    (Form.steady_single (Case.steady_holding steady_transfers "CryptoTransfer")) "data"
  have hmemo := (Fields.steady_one Form.steady_text "memo").and hdata
  have hvalid := (Fields.steady_one Form.steady_unsigned64 "transaction_valid_duration").and hmemo
  have hfee := (Fields.steady_one Form.steady_signed64 "transaction_fee").and hvalid
  have hnode := (Fields.steady_one steady_entityId "node_account_id").and hfee
  exact ((Fields.steady_one steady_transactionId "transaction_id").and hnode).form.map _ _

theorem steady_signature : signature.Steady := by
  have hcases := Form.steady_either (Case.steady_holding Form.steady_bytes "Ed25519")
    (Case.steady_holding Form.steady_bytes "EcdsaSecp256k1")
  exact hcases.map _ _

theorem steady_signaturePair : signaturePair.Steady :=
  ((Fields.steady_one Form.steady_bytes _).and (Fields.steady_one steady_signature _)).form.map _ _

theorem steady_signatureMap : signatureMap.Steady :=
  (Fields.steady_one steady_signaturePair.list "pairs").form.map _ _

theorem steady_signedTransaction : signedTransaction.Steady :=
  ((Fields.steady_one Form.steady_bytes _).and (Fields.steady_one steady_signatureMap _)).form.map
    _ _

theorem steady_transactionList : transactionList.Steady :=
  (Fields.steady_one steady_signedTransaction.list "transactions").form

theorem steady_request : request.Steady := by
  have hid := Fields.steady_one steady_transactionId "transaction_id"
  have hcases := Form.steady_either
    (Case.steady_holding steady_signedTransaction "SubmitTransaction")
    (Case.steady_fields hid "GetTransactionReceipt")
  exact hcases.map _ _

theorem steady_status : status.Steady := Form.steady_names _ _

theorem steady_receipt : receipt.Steady := by
  have htopic := Fields.steady_maybe steady_entityId "topic_id"
  have hfile := (Fields.steady_maybe steady_entityId "file_id").and htopic
  have htoken := (Fields.steady_maybe steady_entityId "token_id").and hfile
  have haccount := (Fields.steady_maybe steady_entityId "account_id").and htoken
  exact ((Fields.steady_one steady_status "status").and haccount).form.map _ _

theorem steady_responseBody : responseBody.Steady := by
  have hcases := Form.steady_either (Case.steady_empty "Empty")
    (Case.steady_holding steady_receipt "Receipt")
  exact hcases.map _ _

theorem steady_response : response.Steady := by
  have hbody := Fields.steady_one steady_responseBody "body"
  exact ((Fields.steady_one steady_status "status").and hbody).form.map _ _

/-! ## All messages -/

/-- What is written of a message is read as the message, up to what is left out in writing. -/
def Form.Restores (f : Form α) (norm : α → α) (m : α) : Prop :=
  ∀ b, encode? f m = some b → decode f b = .ok (norm m)

/-- The messages between a client and a node, and what of them is kept or signed by itself. -/
inductive MessageKind where
  | body
  | signedTransaction
  | transactionList
  | request
  | response

namespace MessageKind

def Message : MessageKind → Type
  | body => TransactionBody
  | signedTransaction => SignedTransaction
  | transactionList => List SignedTransaction
  | request => Request
  | response => Response

def form : (kind : MessageKind) → Form kind.Message
  | body => Wire.body
  | signedTransaction => Wire.signedTransaction
  | transactionList => Wire.transactionList
  | request => Wire.request
  | response => Wire.response

/-- A message without the checksums of its identifiers. -/
def bare : (kind : MessageKind) → kind.Message → kind.Message
  | body => TransactionBody.bare
  | signedTransaction => id
  | transactionList => id
  | request => Request.bare
  | response => Response.bare

/-- The instant in the name of a transaction is regular, if the message holds such a name. -/
def Regular : (kind : MessageKind) → kind.Message → Prop
  | body => fun b => b.id.validStart.Regular
  | request => Request.Regular
  | signedTransaction | transactionList | response => fun _ => True

/-- What is read of a message that is written. -/
def back : (kind : MessageKind) → kind.Message → Option kind.Message
  | body => TransactionBody.back
  | signedTransaction => some
  | transactionList => some
  | request => Request.back
  | response => fun r => some r.bare

theorem strict_form (kind : MessageKind) : kind.form.Strict kind.back := by
  cases kind with
  | body => exact .of_lawful lawful_body steady_body
  | signedTransaction => exact .of_lawful lawful_signedTransaction steady_signedTransaction
  | transactionList => exact .of_lawful lawful_transactionList steady_transactionList
  | request => exact .of_lawful lawful_request steady_request
  | response => exact .of_lawful lawful_response steady_response

theorem back_of_regular {kind : MessageKind} {m : kind.Message} (h : kind.Regular m) :
    kind.back m = some (kind.bare m) := by
  cases kind with
  | body => exact if_pos h
  | request => exact if_pos h
  | signedTransaction | transactionList | response => rfl

theorem back_of_not_regular {kind : MessageKind} {m : kind.Message} (h : ¬ kind.Regular m) :
    kind.back m = none := by
  cases kind with
  | body => exact if_neg h
  | request => exact if_neg h
  | signedTransaction | transactionList | response => exact absurd trivial h

end MessageKind

/-- All messages are strict, and one that is written is read back exactly if the instants in it are
regular. -/
theorem strict_messages (kind : MessageKind) :
    kind.form.Strict kind.back ∧
      ∀ m, (encode? kind.form m).isSome = true →
        (kind.form.Restores kind.bare m ↔ kind.Regular m) := by
  have hstrict := kind.strict_form
  refine ⟨hstrict, fun m hwritten => ⟨fun hrestores => ?_, fun hregular b hb => ?_⟩⟩
  · obtain ⟨b, hb⟩ := Option.isSome_iff_exists.mp hwritten
    by_contra hregular
    have hread := hrestores b hb
    rw [hstrict.unreadable m b hb (MessageKind.back_of_not_regular hregular)] at hread
    cases hread
  · exact hstrict.read m b _ hb (MessageKind.back_of_regular hregular)

/-- A request for a receipt is written, and what is written is unreadable. -/
theorem not_restores_overrunning :
    ¬ Form.Restores request Request.bare (.receipt .overrunning) := by
  have hstrict := Form.Strict.of_lawful lawful_request steady_request
  obtain ⟨b, hb⟩ := Option.isSome_iff_exists.mp
    ((hstrict.written_iff (.receipt .overrunning)).mpr (by decide +kernel))
  intro h
  have hread := h b hb
  rw [hstrict.unreadable _ b hb (by decide)] at hread
  cases hread

end HbarKit.Wire
