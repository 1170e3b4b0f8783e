import HbarKit.Network.ReceiptQuery
import HbarKit.Proofs.Except
import HbarKit.Proofs.Network.Attempts
import HbarKit.Proofs.Network.Sampling

/-!
# Before the first exchange

An inquiry is refused for one of six reasons before anything goes to a node: an identifier that
does not validate on the ledger, a node that the client does not know, no node at all, a caller who
has asked to stop, a deadline that has passed, and a request that cannot be written for the first
node. The first of them is the result, and the client is left as it was. Without any of them
something goes to a node.
-/
namespace HbarKit

open Run

variable {ω κ α : Type}

/-! ## Identifiers -/

namespace EntityId

/-- The wrong checksum of an identifier on a ledger, if it carries one. -/
def mismatch? (id : EntityId) (l : Ledger) : Option EntityError :=
  id.checksum.bind fun given =>
    if given = id.checksumOn l then none else some (.checksumMismatch given (id.checksumOn l) l)

theorem cause?_validate (id : EntityId) (l : Ledger) : cause? (id.validate l) = id.mismatch? l := by
  unfold validate mismatch?
  cases id.checksum with
  | none => rfl
  | some given =>
    by_cases h : given = id.checksumOn l
    · rw [Option.bind_some, if_pos h]
      simp only [if_pos h, cause?_ok]
    · rw [Option.bind_some, if_neg h]
      simp only [if_neg h, cause?_error]

theorem cause?_validateAll (ids : List EntityId) (l : Ledger) :
    cause? (validateAll ids l) = ids.findSome? fun id => id.mismatch? l := by
  simp only [validateAll, cause?_forM, cause?_validate]

end EntityId

/-- A transaction is refused for the first wrong checksum in the order of its parts. -/
theorem Frozen.cause?_validate (f : Frozen) (l : Ledger) :
    cause? (f.inquiry.validate l) =
      (f.terms.id.account :: (f.nodes ++ f.terms.transfers.ids)).findSome? fun id =>
        id.mismatch? l := by
  rw [List.findSome?_cons, List.findSome?_append, ← EntityId.cause?_validateAll,
    ← EntityId.cause?_validateAll, ← EntityId.cause?_validate]
  simp only [inquiry, Transaction.validate, Transaction.id?, Transaction.nodes,
    Transaction.transfers, TransactionId.validate, Transfers.validate, cause?_then]
  cases cause? (f.terms.id.account.validate l) with
  | none => rfl
  | some e => rfl

/-- A question for a receipt is refused for the first wrong checksum of its nodes, or that of the
payer. -/
theorem ReceiptQuery.cause?_validate (r : ReceiptQuery) (l : Ledger) :
    cause? (r.inquiry.validate l) =
      (r.nodes ++ (r.id.map TransactionId.account).toList).findSome? fun id => id.mismatch? l := by
  rw [List.findSome?_append, ← EntityId.cause?_validateAll]
  simp only [inquiry, validate, cause?_then]
  cases r.id with
  | none => rfl
  | some id => simp [TransactionId.validate, EntityId.cause?_validate]

/-! ## Reasons to refuse an inquiry -/

namespace Inquiry

variable (host : Host ω κ) (q : Inquiry α) (deadline : Option Moment)

/-- An identifier does not validate on the ledger of a client who checks them. -/
def mismatch? (c : Client κ) : Option Error :=
  if c.settings.validatesChecksums then
    c.ledger.bind fun l => (cause? (q.validate l)).map .entity
  else none

/-- The first node that the inquiry names and the client does not know. -/
def unknownNode? (c : Client κ) : Option Error :=
  q.nodes.findSome? fun account =>
    if c.nodes.any fun n => n.account.same account then none
    else some (.configuration (.unknownNode account))

/-- The inquiry names no node, and the client has none to choose or may choose none. -/
def noNodes? (c : Client κ) : Option Error :=
  if q.nodes = [] ∧ (c.nodes = [] ∨ c.settings.maxNodes = 0) then some .noNodes else none

/-- The caller has asked to stop. -/
def cancelled? (s : Session ω κ) : Option Error :=
  if (host.isCancelled s.outside).1 then some .cancelled else none

/-- The deadline has passed when the clock is read after a look whether the caller asked to stop. -/
def late? (s : Session ω κ) : Option Error :=
  deadline.bind fun d =>
    if d ≤ (host.now (host.isCancelled s.outside).2).1 then some .deadlinePassed else none

/-- The request for the first node that is picked cannot be made or written. -/
def unsendable? (nodes : List Node) (s : Session ω κ) : Option Error :=
  (pick host nodes 0 (stop? host deadline s).2).1.bind fun node => cause? (q.bytes node.account)

/-- The nodes that the inquiry may go to. -/
def asked (s : Session ω κ) : List Node := (q.candidates host s).1.toOption.getD []

/-- The session in which the first attempt begins: the nodes are found and the clock is read. -/
def opened (s : Session ω κ) : Session ω κ := (outside host.now (q.candidates host s).2).2

/-- The first reason to refuse an inquiry, if there is one. -/
def refusal? (s : Session ω κ) : Option Error :=
  q.mismatch? s.client <|> q.unknownNode? s.client <|> q.noNodes? s.client <|>
    cancelled? host (q.opened host s) <|> late? host deadline (q.opened host s) <|>
    q.unsendable? host deadline (q.asked host s) (q.opened host s)

/-! ## The steps that refuse -/

theorem cause?_check (c : Client κ) : cause? (q.check c) = q.mismatch? c := by
  unfold check mismatch?
  cases c.settings.validatesChecksums with
  | false => rfl
  | true =>
    cases c.ledger with
    | none => rfl
    | some l =>
      cases hvalidate : q.validate l with
      | error e => simp [hvalidate, Except.mapError]
      | ok u => simp [hvalidate, Except.mapError]

theorem cause?_nodeOf (c : Client κ) (account : EntityId) :
    cause? (c.nodeOf account) =
      if c.nodes.any fun n => n.account.same account then none
      else some (.configuration (.unknownNode account)) := by
  unfold Client.nodeOf
  cases hnode : c.nodes.find? fun n => n.account.same account with
  | none =>
    have hany : ¬ c.nodes.any (fun n => n.account.same account) = true := by
      simpa using hnode
    rw [if_neg hany]
    rfl
  | some node =>
    have hsame : node.account.same account = true := by
      simpa using List.find?_some hnode
    have hany : c.nodes.any (fun n => n.account.same account) = true :=
      List.any_eq_true.mpr ⟨node, List.mem_of_find?_eq_some hnode, hsame⟩
    rw [if_pos hany]
    rfl

theorem cause?_candidates (s : Session ω κ) :
    cause? (q.candidates host s).1 = (q.unknownNode? s.client <|> q.noNodes? s.client) := by
  unfold unknownNode? noNodes?
  simp only [candidates, bind_apply, client_apply]
  cases hnodes : q.nodes with
  | nil =>
    simp only [bind_apply, ← sample_eq_nil_iff host s.client.settings.maxNodes s]
    cases sample host s.client.settings.maxNodes s with
    | mk nodes s' => cases nodes <;> rfl
  | cons account rest =>
    simp only [pure_apply, Client.nodesOf, cause?_mapM, cause?_nodeOf]
    simp

theorem stop?_eq (s : Session ω κ) :
    (stop? host deadline s).1 = (cancelled? host s <|> late? host deadline s) := by
  unfold cancelled? late?
  cases hcancelled : (host.isCancelled s.outside).1 with
  | true => simp [stop?, hcancelled]
  | false =>
    cases deadline with
    | none => simp [stop?, hcancelled]
    | some d =>
      by_cases hlate : d ≤ (host.now (host.isCancelled s.outside).2).1
      · simp [stop?, hcancelled, hlate]
      · simp [stop?, hcancelled, hlate]

/-- The first attempt asks nobody when the caller wants to stop or nothing can be sent. -/
theorem cause?_ask (settings : Settings) {nodes : List Node} (hne : nodes ≠ []) (start : Moment)
    (s : Session ω κ) :
    cause? (q.ask host settings nodes deadline start 0 s).1 =
      ((stop? host deadline s).1 <|> q.unsendable? host deadline nodes s) := by
  obtain ⟨node, -, hpick⟩ := pick_eq_some host hne 0 (stop? host deadline s).2
  rw [unsendable?, hpick, Option.bind_some]
  simp only [ask, bind_apply]
  cases (stop? host deadline s).1 with
  | some e => rfl
  | none =>
    simp only [bind_apply, hpick]
    cases q.bytes node.account with
    | error e => rfl
    | ok request => rfl

/-! ## Inquiries that are refused -/

/-- Asking without a reply leaves the client as it was. -/
theorem client_ask_of_error {settings : Settings} {nodes : List Node} {start : Moment} {turn : Nat}
    {s : Session ω κ} {e : Error}
    (h : (q.ask host settings nodes deadline start turn s).1 = .error e) :
    (q.ask host settings nodes deadline start turn s).2.client = s.client := by
  have hstop := (passive_stop? host deadline).client_eq s
  have hpick := (passive_pick host nodes turn).client_eq (stop? host deadline s).2
  simp only [ask, bind_apply] at h ⊢
  cases hstopped : (stop? host deadline s).1 with
  | some e => simpa [hstopped] using hstop
  | none =>
    simp only [hstopped, bind_apply] at h ⊢
    cases hpicked : (pick host nodes turn (stop? host deadline s).2).1 with
    | none =>
      simp only [pure_apply]
      rw [hpick, hstop]
    | some node =>
      simp only [hpicked] at h ⊢
      cases hbytes : q.bytes node.account with
      | error e =>
        simp only [pure_apply]
        rw [hpick, hstop]
      | ok request =>
        simp only [hbytes, bind_apply] at h
        cases h

end Inquiry

namespace Pursuit

variable {p : Pursuit ω κ α} {e : Error}

/-- A pursuit of which the first attempt asks nobody ends with it. -/
theorem attempts_of_ask_error (left : Nat)
    (h : (p.inquiry.ask p.host p.settings p.nodes p.deadline p.start 0 p.first).1 = .error e) :
    p.attempts left 0 p.first =
      (.error e,
        (p.inquiry.ask p.host p.settings p.nodes p.deadline p.start 0 p.first).2) := by
  rw [attempts, Inquiry.attempts]
  simp only [Inquiry.attempt, bind_apply, h]
  rfl

theorem not_contacts_of_ask_error
    (h : (p.inquiry.ask p.host p.settings p.nodes p.deadline p.start 0 p.first).1 = .error e)
    (turn : Nat) (address : String) : ¬ p.Contacts turn address := by
  cases turn with
  | zero =>
    rintro ⟨s, node, hs, hnode, -⟩
    cases hs
    rw [contact?, h] at hnode
    cases hnode
  | succ turn =>
    have hattempt : (p.attempt 0 p.first).1 = .ended (.error e) := by
      simp only [attempt, Inquiry.attempt, bind_apply, h]
      rfl
    have hnext : p.next? 0 p.first = none := by
      rw [next?]
      cases hboth : p.attempt 0 p.first with
      | mk a s =>
        rw [hboth] at hattempt
        cases hattempt
        rfl
    have hnone : p.session? 1 = none := by
      rw [session?, session?, Option.bind_some, hnext, ite_self]
    exact not_contacts_of_none hnone (by omega) address

theorem contacts_of_ask_ok {reply : Reply}
    (h : (p.inquiry.ask p.host p.settings p.nodes p.deadline p.start 0 p.first).1 = .ok reply) :
    p.Contacts 0 reply.node.address := by
  refine ⟨p.first, reply.node, rfl, ?_, rfl⟩
  rw [contact?, h]
  rfl

end Pursuit

namespace Inquiry

variable (host : Host ω κ) (q : Inquiry α) (deadline : Option Moment) (s : Session ω κ)

/-- The reasons are those of the three steps that may refuse. -/
theorem refusal?_eq : q.refusal? host deadline s =
    (cause? (q.check s.client) <|> cause? (q.candidates host s).1 <|>
      (stop? host deadline (q.opened host s)).1 <|>
      q.unsendable? host deadline (q.asked host s) (q.opened host s)) := by
  rw [refusal?, cause?_check, cause?_candidates, stop?_eq]
  cases q.mismatch? s.client with
  | some e => rfl
  | none =>
    cases q.unknownNode? s.client with
    | some e => rfl
    | none =>
      cases q.noNodes? s.client with
      | some e => rfl
      | none => cases cancelled? host (q.opened host s) <;> rfl

/-- An inquiry that is not let through or finds nobody ends with the reason for that. -/
theorem run_of_pursuit?_none (h : q.pursuit? host deadline s = none) :
    ∃ e, q.refusal? host deadline s = some e ∧ (q.run host deadline s).1 = .error e ∧
      (q.run host deadline s).2.client = s.client := by
  rw [refusal?_eq]
  simp only [run, bind_apply, client_apply]
  cases hcheck : q.check s.client with
  | error e => exact ⟨e, rfl, rfl, rfl⟩
  | ok u =>
    have hclient := (passive_candidates host q).client_eq s
    cases hcandidates : q.candidates host s with
    | mk nodes s' =>
      rw [hcandidates] at hclient
      cases nodes with
      | error e =>
        refine ⟨e, rfl, ?_, ?_⟩
        · simp only [bind_apply, hcandidates, pure_apply]
        · simpa only [bind_apply, hcandidates, pure_apply] using hclient
      | ok nodes => simp [pursuit?, hcheck, hcandidates] at h

/-- One that finds somebody can only be refused by its first attempt. -/
theorem refusal?_of_pursuit? {p : Pursuit ω κ α} (h : q.pursuit? host deadline s = some p) :
    q.refusal? host deadline s =
      cause? (p.inquiry.ask p.host p.settings p.nodes p.deadline p.start 0 p.first).1 := by
  rw [refusal?_eq]
  unfold pursuit? at h
  split at h
  · rename_i nodes s' hcheck hcandidates
    have hne : nodes ≠ [] := candidates_ne_nil host s q (by rw [hcandidates])
    cases h
    rw [cause?_ask host q deadline _ hne, asked, opened, hcheck, hcandidates]
    rfl
  · cases h

/-- An inquiry is refused for the first reason that there is, with nothing sent and nobody connected
to, and with the client left as it was; without a reason something goes to a node. The identifiers
of a transaction are looked at in the order of its name, its nodes, the accounts that hbars move
between, and for each token the token and the accounts that it moves between; those of a question
for a receipt are its nodes and the payer. -/
theorem run_refused (host : Host ω κ) (q : Inquiry α) (deadline : Option Moment)
    (s : Session ω κ) :
    (Adds id (q.run host.recorded deadline) (q.run host deadline) s fun log result =>
      match q.refusal? host deadline s with
      | some e => result = .error e ∧ (∀ event ∈ log, event.isExchange = false) ∧
          (q.run host deadline s).2.client = s.client
      | none => ∃ event ∈ log, event.isExchange = true) ∧
    (∀ (f : Frozen) (l : Ledger), cause? (f.inquiry.validate l) =
      (f.terms.id.account :: (f.nodes ++ (f.terms.transfers.hbars.map Movement.account ++
        f.terms.transfers.tokens.flatMap fun t =>
          t.token :: t.movements.map Movement.account))).findSome? fun id => id.mismatch? l) ∧
    ∀ (r : ReceiptQuery) (l : Ledger), cause? (r.inquiry.validate l) =
      (r.nodes ++ (r.id.map TransactionId.account).toList).findSome? fun id => id.mismatch? l := by
  refine ⟨?_, Frozen.cause?_validate, ReceiptQuery.cause?_validate⟩
  have hreaches := q.adds_run_reaches host deadline s
  refine ⟨hreaches.sends, ?_⟩
  have hsilent : (∀ p, q.pursuit? host deadline s = some p → ∀ turn address,
        ¬ p.Contacts turn address) →
      ∀ event ∈ log (q.run host.recorded deadline) s, event.isExchange = false := by
    intro hnone event hevent
    by_contra hexchange
    obtain ⟨address, haddress⟩ := event.exists_address_iff.mpr (by simpa using hexchange)
    obtain ⟨before, after, hlog⟩ := List.append_of_mem hevent
    obtain ⟨p, turn, hp, -, hcontacts⟩ :=
      (hreaches.post _ address).mp ⟨before, event, after, hlog, rfl, haddress⟩
    exact hnone p hp turn address hcontacts
  cases hp : q.pursuit? host deadline s with
  | none =>
    obtain ⟨e, he, hresult, hclient⟩ := q.run_of_pursuit?_none host deadline s hp
    rw [he]
    refine ⟨hresult, hsilent ?_, hclient⟩
    intro p hp'
    rw [hp] at hp'
    cases hp'
  | some p =>
    rw [refusal?_of_pursuit? host q deadline s hp]
    cases hask : (p.inquiry.ask p.host p.settings p.nodes p.deadline p.start 0 p.first).1 with
    | error e =>
      have hrun := q.run_of_pursuit? host deadline s hp
      rw [Pursuit.attempts_of_ask_error _ hask] at hrun
      rw [hrun]
      refine ⟨rfl, hsilent ?_, ?_⟩
      · intro p' hp'
        rw [hp] at hp'
        cases hp'
        exact Pursuit.not_contacts_of_ask_error hask
      · rw [client_ask_of_error _ _ _ hask]
        exact (pursuit?_eq_some host q deadline s hp).2.2.2
    | ok reply =>
      obtain ⟨before, event, after, hlog, -, haddress⟩ := (hreaches.post 1 _).mpr
        ⟨p, 0, hp, rfl, Pursuit.contacts_of_ask_ok hask⟩
      exact ⟨event, by simp [hlog], event.exists_address_iff.mp ⟨_, haddress⟩⟩

end Inquiry

end HbarKit
