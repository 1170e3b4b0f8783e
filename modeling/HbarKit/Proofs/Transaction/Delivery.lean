import HbarKit.Proofs.Network.Exchanges
import HbarKit.Proofs.Transaction.Coherence
import HbarKit.Proofs.Transaction.Permanence
import Mathlib.Data.List.Find

/-!
# What executing a transaction sends

Every message of an execution is the copy of the transaction for the node that it goes to, signed by
the operator of the client if it is the operator who pays. A transaction that was executed was
accepted by the node that the last message went to, and what its caller is told is about that node
and the copy it got.
-/
namespace HbarKit

open Run

/-! ## Freezing and signing -/

section Freezing

variable {ω κ : Type} (host : Host ω κ)

theorem Run.passive_chooseId (d : Draft) :
    Passive id (d.chooseId host.recorded) (d.chooseId host) := by
  unfold Draft.chooseId
  cases d.id with
  | some name => exact passive_client.bind fun c => passive_pure id _
  | none =>
    refine passive_client.bind fun c => ?_
    cases hoperator : c.operator with
    | none =>
      simp only [Client.labelled, hoperator]
      exact passive_pure id _
    | some operator =>
      simp only [Client.labelled, hoperator]
      refine (passive_date host).bind fun now => ?_
      refine (passive_random host).bind fun jitter => ?_
      exact passive_pure id _

theorem Run.passive_chooseNodes (d : Draft) :
    Passive id (d.chooseNodes host.recorded) (d.chooseNodes host) := by
  unfold Draft.chooseNodes
  cases d.nodes with
  | nil =>
    refine passive_client.bind fun c => ?_
    refine (passive_sample host _).bind fun nodes => ?_
    cases nodes with
    | nil => exact passive_pure id _
    | cons node rest => exact passive_pure id _
  | cons account rest => exact passive_pure id _

theorem Run.passive_draft_freezeWith (d : Draft) :
    Passive id (d.freezeWith host.recorded) (d.freezeWith host) := by
  refine (passive_chooseId host d).bind fun chosen => ?_
  cases chosen with
  | error e => exact passive_pure id _
  | ok name =>
    refine (passive_chooseNodes host d).bind fun nodes => ?_
    cases nodes with
    | error e => exact passive_pure id _
    | ok nodes => exact passive_client.bind fun c => passive_pure id _

theorem Run.passive_freezeWith (t : Transaction) :
    Passive id (t.freezeWith host.recorded) (t.freezeWith host) := by
  cases t with
  | draft d => exact (passive_draft_freezeWith host d).bind fun f => passive_pure id _
  | frozen f => exact passive_pure id _
  | executed f => exact passive_pure id _

/-- What a client freezes is frozen. -/
theorem Transaction.frozen_of_freezeWith {t t' : Transaction} {s : Session ω κ}
    (h : (t.freezeWith host s).1 = .ok t') : ∃ f, t' = frozen f := by
  cases t with
  | draft d =>
    simp only [Transaction.freezeWith, bind_apply, pure_apply] at h
    cases hf : (d.freezeWith host s).1 with
    | error e =>
      rw [hf] at h
      cases h
    | ok f =>
      rw [hf] at h
      cases h
      exact ⟨f, rfl⟩
  | frozen f =>
    cases h
    exact ⟨f, rfl⟩
  | executed f => cases h

end Freezing

theorem SignatureMap.mem_withSigner (key : PublicKey) (signers : List (Bytes × Scheme)) :
    key.raw ∈ (withSigner key signers).map Prod.fst := by
  unfold withSigner
  split
  · assumption
  · simp

theorem Frozen.terms_signByPayer (f : Frozen) (operator : Option Operator) :
    (f.signByPayer operator).terms = f.terms := by
  unfold signByPayer
  split
  · split <;> rfl
  · rfl

/-- If the operator pays, every copy has one signature of its key. -/
theorem Frozen.count_signByPayer {f : Frozen} {operator : Operator}
    (hcoherent : (Transaction.frozen (f.signByPayer (some operator))).Coherent)
    (hpays : f.terms.id.account.same operator.account = true) {copy : NodeCopy}
    (hcopy : copy ∈ (f.signByPayer (some operator)).copies) :
    (copy.signatures.pairs.map SignaturePair.publicKey).count operator.key.publicKey.raw = 1 := by
  apply List.count_eq_one_of_mem (hcoherent.signedOnce copy hcopy)
  rw [signByPayer, if_pos hpays] at hcopy
  obtain ⟨c, _, rfl⟩ := List.mem_map.mp hcopy
  rw [← SignatureMap.map_fst_signers, NodeCopy.signers_sign]
  exact SignatureMap.mem_withSigner _ _

/-! ## The inquiry of a frozen transaction -/

/-- Whether the body of a copy names the node of an account. -/
def NodeCopy.names (c : NodeCopy) (account : EntityId) : Bool :=
  match Wire.decode? Wire.body c.body with
  | some body => body.node.same account
  | none => false

namespace Frozen

variable {f : Frozen}

/-- If the name can be read, the copy for a node is the first whose body names it. -/
theorem find?_names (hlegible : (Transaction.frozen f).Legible) (account : EntityId) :
    f.copies.find? (fun c => c.names account) = f.copies.find? fun c => c.node.same account := by
  apply List.find?_congr
  intro c hc
  have hread := hlegible f.terms.id f.terms.fee rfl rfl c hc
  simp only [NodeCopy.names, hread]
  rfl

theorem copyFor_eq_ok_iff {account : EntityId} {copy : NodeCopy} :
    f.copyFor account = .ok copy ↔
      f.copies.find? (fun c => c.node.same account) = some copy := by
  unfold copyFor
  cases f.copies.find? fun c => c.node.same account with
  | none => simp
  | some c => simp

/-- A node is sent its copy. -/
theorem bytes_inquiry {account : EntityId} {request : Bytes}
    (h : f.inquiry.bytes account = .ok request) : ∃ copy, f.copyFor account = .ok copy ∧
      Wire.encode? Wire.request (.submit copy.signed) = some request := by
  obtain ⟨asked, hasked, hrequest⟩ := bind_eq_ok.mp h
  obtain ⟨copy, hcopy, hasked⟩ := bind_eq_ok.mp hasked
  obtain ⟨hash, _, hasked⟩ := bind_eq_ok.mp hasked
  cases hasked
  refine ⟨copy, hcopy, ?_⟩
  cases hencode : Wire.encode? Wire.request (.submit copy.signed) with
  | none =>
    rw [hencode] at hrequest
    cases hrequest
  | some b =>
    rw [hencode] at hrequest
    cases hrequest
    rfl

/-- A caller is told of the transaction, the node and the digest of the copy for it. -/
theorem answer_inquiry {account : EntityId} {response : Response} {a : Acceptance}
    (h : f.inquiry.answer account response = .ok a) :
    a.id = f.terms.id ∧ a.node = account ∧ ∃ copy, f.copyFor account = .ok copy ∧
      ∃ b, Wire.encode? Wire.signedTransaction copy.signed = some b ∧
        a.hash = Hash.sha384.digest b := by
  obtain ⟨copy, hcopy, h⟩ := bind_eq_ok.mp h
  obtain ⟨hash, hhash, h⟩ := bind_eq_ok.mp h
  cases h
  refine ⟨rfl, rfl, copy, hcopy, ?_⟩
  unfold NodeCopy.hash at hhash
  split at hhash
  · rename_i b hencode
    cases hhash
    exact ⟨b, hencode, rfl⟩
  · cases hhash

end Frozen

theorem Verdict.status_of_ofSubmission {response : Response}
    (h : Verdict.ofSubmission response = .accept) : response.status = .ok := by
  unfold Verdict.ofSubmission at h
  split at h
  · assumption
  all_goals cases h

namespace Transaction

/-! ## Messages -/

/-- A message to a node of a client with a copy of a transaction. -/
structure Carries {κ : Type} (c : Client κ) (t : Transaction) (node : Node) (copy : NodeCopy)
    (m : Message) : Prop where
  /-- The message goes to the address of one of the client's nodes. -/
  known : node ∈ c.nodes
  address : m.address = node.address
  /-- The copy is the first one for the account of the node. -/
  first : t.copies.find? (fun c => c.node.same node.account) = some copy
  /-- In it is written a body that names the transaction and the account. -/
  written : ∃ body, Wire.encode? Wire.body body = some copy.body ∧ t.id? = some body.id ∧
    body.node.same node.account = true
  /-- If the name of the transaction can be read, the copy is the first whose body is read as one
  that names the account of the node. -/
  found : (∀ id, t.id? = some id → id.validStart.Regular) →
    t.copies.find? (fun c => c.names node.account) = some copy
  /-- The body is then read as one that names the transaction. -/
  names : (∀ id, t.id? = some id → id.validStart.Regular) →
    ∃ id body, t.id? = some id ∧ Wire.decode? Wire.body copy.body = some body ∧ body.id = id.bare
  /-- The message is the request that the copy is submitted by. -/
  request : Wire.encode? Wire.request (.submit copy.signed) = some m.request
  /-- If the client has an operator who pays, then its key has signed the copy once. -/
  signed : ∀ operator id, c.operator = some operator → t.id? = some id →
    id.account.same operator.account = true →
    (copy.signatures.pairs.map SignaturePair.publicKey).count operator.key.publicKey.raw = 1

/-- What a transaction that is executed sends, what its caller is told, and what it is then. -/
structure Delivery {κ : Type} (c : Client κ) (t : Transaction) (ms : List Message)
    (result : Except Error Acceptance) (t' : Transaction) : Prop where
  /-- Every message carries the copy for the node that it goes to. -/
  carries : ∀ m ∈ ms, ∃ node copy, Carries c t' node copy m
  /-- The caller is told of the node that was sent the last message and has accepted it, and of the
  copy in that message. -/
  accepted : ∀ a, result = .ok a → ∃ earlier m, ms = earlier ++ [m] ∧
    ∃ node copy, Carries c t' node copy m ∧
      (∃ response, m.response = .ok response ∧ response.status = .ok) ∧
      a.node = node.account ∧ t'.id? = some a.id ∧
      ∃ b, Wire.encode? Wire.signedTransaction copy.signed = some b ∧ a.hash = Hash.sha384.digest b
  /-- The transaction is executed if it was accepted or was executed before. -/
  executed : t'.isExecuted = true ↔ (∃ a, result = .ok a) ∨ t.isExecuted = true
  /-- A transaction that was frozen before keeps what it was. -/
  keeps : t.isFrozen = true → t.Keeps t'

section Delivery

variable {κ : Type} {c : Client κ} {t t' : Transaction} {f : Frozen}

/-- A frozen transaction as a client puts it to nodes: if its operator pays, then the key of the
operator has signed every copy once. -/
structure Ready (c : Client κ) (f : Frozen) : Prop where
  coherent : (frozen f).Coherent
  signed : ∀ operator, c.operator = some operator →
    f.terms.id.account.same operator.account = true → ∀ copy ∈ f.copies,
      (copy.signatures.pairs.map SignaturePair.publicKey).count operator.key.publicKey.raw = 1

theorem ready_signByPayer (h : (frozen (f.signByPayer c.operator)).Coherent) :
    Ready c (f.signByPayer c.operator) := by
  refine ⟨h, ?_⟩
  intro operator hoperator hpays copy hcopy
  rw [Frozen.terms_signByPayer] at hpays
  rw [hoperator] at h hcopy
  exact Frozen.count_signByPayer h hpays hcopy

/-- A request of a frozen transaction carries the copy for the node, whatever became of the
transaction since. -/
theorem carries_of_asks (hready : Ready c f) (hcopies : t'.copies = f.copies)
    (hid : t'.id? = some f.terms.id) {node : Node} {m : Message} (hnode : node ∈ c.nodes)
    (hasks : f.inquiry.Asks node m) :
    ∃ copy, f.copyFor node.account = .ok copy ∧ Carries c t' node copy m := by
  obtain ⟨copy, hcopy, hrequest⟩ := Frozen.bytes_inquiry hasks.request
  have hfound := Frozen.copyFor_eq_ok_iff.mp hcopy
  have hmem := List.mem_of_find?_eq_some hfound
  have hsame : copy.node.same node.account = true := by simpa using List.find?_some hfound
  have hlegible : (∀ id, t'.id? = some id → id.validStart.Regular) → (frozen f).Legible := by
    intro hregular
    refine (hready.coherent.legible_iff rfl).mpr fun id hname => hregular id ?_
    rwa [hid]
  refine ⟨copy, hcopy, ?_⟩
  constructor
  · exact hnode
  · exact hasks.address
  · rw [hcopies, hfound]
  · exact ⟨_, hready.coherent.written _ _ rfl rfl copy hmem, hid, hsame⟩
  · intro hregular
    rw [hcopies, Frozen.find?_names (hlegible hregular), hfound]
  · intro hregular
    exact ⟨_, _, hid, hlegible hregular _ _ rfl rfl copy hmem, rfl⟩
  · exact hrequest
  · intro operator id hoperator hname hpays
    obtain rfl := Option.some.inj (hname.symm.trans hid)
    exact hready.signed operator hoperator hpays copy hmem

/-- What is sent for a frozen transaction, and what becomes of a transaction that was put to nodes
as that. -/
theorem delivery_of_correspondence (hready : Ready c f) (hbefore : t.isExecuted = false)
    {ms : List Message} {result : Except Error Acceptance}
    (h : f.inquiry.Correspondence c.nodes ms result)
    (hafter : t' = match result with
      | .ok _ => executed f
      | .error _ => frozen f)
    (hkeeps : t.isFrozen = true → t.Keeps t') : Delivery c t ms result t' := by
  have hcopies : t'.copies = f.copies := by
    rw [hafter]
    cases result <;> rfl
  have hid : t'.id? = some f.terms.id := by
    rw [hafter]
    cases result <;> rfl
  constructor
  · intro m hm
    obtain ⟨node, hnode, hasks⟩ := h.asks m hm
    obtain ⟨copy, _, hcarries⟩ := carries_of_asks hready hcopies hid hnode hasks
    exact ⟨node, copy, hcarries⟩
  · intro a ha
    obtain ⟨earlier, m, hms, node, hnode, haccepted⟩ := h.answered a ha
    obtain ⟨response, hresponse, hverdict, hanswer⟩ := haccepted.answer
    obtain ⟨copy, hcopy, hcarries⟩ := carries_of_asks hready hcopies hid hnode haccepted.toAsks
    obtain ⟨hname, haccount, copy', hcopy', hhash⟩ := Frozen.answer_inquiry hanswer
    obtain rfl : copy = copy' := by
      rw [hcopy] at hcopy'
      exact Except.ok.inj hcopy'
    refine ⟨earlier, m, hms, node, copy, hcarries, ?_, haccount, ?_, hhash⟩
    · exact ⟨response, hresponse, Verdict.status_of_ofSubmission hverdict⟩
    · rw [hid, hname]
  · rw [hafter, hbefore]
    cases result with
    | ok a => simp [isExecuted]
    | error e => simp [isExecuted]
  · exact hkeeps

/-- Nothing is sent if a transaction cannot be frozen. -/
theorem delivery_of_error (c : Client κ) (t : Transaction) (e : Error) :
    Delivery c t [] (.error e) t where
  carries m hm := by cases hm
  accepted a ha := by cases ha
  executed := by simp
  keeps _ := t.keeps_refl

end Delivery

section Execute

variable {ω κ : Type} (host : Host ω κ)

theorem sends_execute {t : Transaction} (hcoherent : t.Coherent) (deadline : Option Moment)
    (s : Session ω κ) :
    Sends id (t.execute host.recorded deadline) (t.execute host deadline) s
      fun ms r _ => Delivery s.client t ms r.1 r.2 := by
  refine (passive_freezeWith host t).then fun frozen? s' hfreeze hsame => ?_
  have hresult := congrArg Prod.fst hfreeze
  cases frozen? with
  | error e => exact sends_pure id _ (delivery_of_error s.client t e)
  | ok u =>
    obtain ⟨f, rfl⟩ := frozen_of_freezeWith host hresult
    have hsteps := steps_of_freezeWith host s hresult
    have hbefore : t.isExecuted = false := by
      cases t with
      | draft _ | frozen _ => rfl
      | executed _ => cases hresult
    refine passive_client.then fun c s'' hclient hkept => ?_
    obtain rfl : c = s.client := (congrArg Prod.fst hclient).symm.trans hsame
    have hsigned := hsteps.trans (steps_signByPayer f s.client.operator)
    have hready := ready_signByPayer (Steps.coherent hsigned hcoherent)
    apply ((f.signByPayer s.client.operator).inquiry.sends_run host deadline s'').bind
    intro ms result s₃ h
    rw [hkept, hsame] at h
    cases result with
    | ok a =>
      apply sends_pure id
      rw [List.append_nil]
      have hkeeps := Steps.keeps (hsigned.tail (.execute _))
      exact delivery_of_correspondence hready hbefore h rfl hkeeps
    | error e =>
      apply sends_pure id
      rw [List.append_nil]
      exact delivery_of_correspondence hready hbefore h rfl (Steps.keeps hsigned)

/-- Whatever was called before, executing a transaction sends every node its copy. -/
theorem delivery_after_new (calls : List Call) (deadline : Option Moment) (s : Session ω κ) :
    Sends id ((new.after calls).execute host.recorded deadline)
      ((new.after calls).execute host deadline) s
      fun ms r _ => Delivery s.client (new.after calls) ms r.1 r.2 :=
  sends_execute host ((steps_after _ calls).coherent (coherent_draft .new)) deadline s

end Execute

end Transaction

end HbarKit
