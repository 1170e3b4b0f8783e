import HbarKit.Proofs.Network.Replies
import HbarKit.Proofs.Transaction.Delivery

/-!
# Trouble of the network

A caller is spared trouble of the network once a node was turned to: it is tried again, and at last
wrapped in the error of spent attempts or spent time. There are two leaks. A question for a receipt
takes an answer of success without a receipt for good, and then has nothing to return. A transaction
whose copy for the next node is too long to be sent ends there, even behind other attempts.
-/
namespace HbarKit

open Run

variable {ω κ α : Type}

/-- The caller of a run that turned to a node does not get trouble of the network. -/
def Absorbs (log : List Event) (result : Except Error α) : Prop :=
  Dispatched log → ∀ e, result = .error e → e.kind ≠ .network

/-! ## Questions for receipts -/

/-- An answer of success that does not come with a receipt. -/
def Response.LacksReceipt (r : Response) : Prop := r.status = .ok ∧ r.receipt = none

theorem Verdict.status_of_ofReceipt {r : Response} (h : Verdict.ofReceipt r = .accept) :
    r.status = .ok := by
  unfold Verdict.ofReceipt at h
  split at h
  · assumption
  all_goals cases h

namespace ReceiptQuery

variable (q : ReceiptQuery)

/-- Every node is sent the same request. -/
theorem bytes_eq (account account' : EntityId) :
    q.inquiry.bytes account = q.inquiry.bytes account' := rfl

theorem verdict_of_lacksReceipt {r : Response} (h : r.LacksReceipt) :
    q.inquiry.verdict r = .accept := by
  simp only [inquiry, Verdict.ofReceipt, h.1, h.2]

theorem answer_of_lacksReceipt {r : Response} (h : r.LacksReceipt) (account : EntityId) :
    q.inquiry.answer account r = .error (.wire .noReceipt) := by
  simp only [inquiry, h.2]

/-- Nothing can be made of an answer that is taken for good if it lacks the receipt. -/
theorem lacksReceipt_of_answer {r : Response} (hverdict : q.inquiry.verdict r = .accept)
    {account : EntityId} {e : Error} (h : q.inquiry.answer account r = .error e) :
    r.LacksReceipt := by
  refine ⟨Verdict.status_of_ofReceipt hverdict, ?_⟩
  cases hreceipt : r.receipt with
  | none => rfl
  | some receipt =>
    simp only [inquiry, hreceipt] at h
    cases h

end ReceiptQuery

/-- A question for a receipt keeps trouble of the network from its caller unless it is given an
answer of success without a receipt. -/
theorem adds_query_absorbs (q : ReceiptQuery) (host : Host ω κ) (deadline : Option Moment)
    (s : Session ω κ) :
    Adds id (q.run host.recorded deadline) (q.run host deadline) s fun log result =>
      (Absorbs log result ↔
        ∀ address r, (address, .ok r) ∈ replies log → ¬ r.LacksReceipt) ∧
      (¬ Absorbs log result → result = .error (.wire .noReceipt)) := by
  have hruns := Inquiry.adds_run host s q.inquiry deadline
  have hrequest := q.inquiry.adds_run_dispatched host deadline s
  refine ⟨hruns.sends, ?_⟩
  have hruns := hruns.post
  have hrequest := hrequest.post
  -- An answer without a receipt is the end, and all that is left to return is an error.
  have hleak : ∀ address r, (address, .ok r) ∈ replies (log (q.run host.recorded deadline) s) →
      r.LacksReceipt → (q.run host deadline s).1 = .error (.wire .noReceipt) := by
    intro address r hr hlacks
    obtain ⟨nodes, hconcludes⟩ :=
      Inquiry.concludes_of_runs hruns (dispatched_of_mem_replies hr)
    obtain ⟨node, -, hresult⟩ :=
      hconcludes.result_of_accepted hr (q.verdict_of_lacksReceipt hlacks)
    exact hresult.trans (q.answer_of_lacksReceipt hlacks _)
  -- A node that was turned to was sent the request, so this cannot be what failed.
  have hescape : ¬ Absorbs (log (q.run host.recorded deadline) s) (q.run host deadline s).1 →
      ∃ address r, (address, .ok r) ∈ replies (log (q.run host.recorded deadline) s) ∧
        r.LacksReceipt := by
    intro h
    simp only [Absorbs, not_forall, not_not] at h
    obtain ⟨hdispatched, e, hresult, hkind⟩ := h
    obtain ⟨nodes, hconcludes⟩ := Inquiry.concludes_of_runs hruns hdispatched
    have hresult' : (q.inquiry.run host deadline s).1 = .error e := hresult
    rw [hresult'] at hconcludes
    obtain ⟨node, -, hbytes⟩ | ⟨node, -, r, hr, hverdict, hanswer⟩ := hconcludes.escape hkind
    · obtain ⟨account, b, hb⟩ := hrequest hdispatched
      rw [q.bytes_eq node.account account, hb] at hbytes
      cases hbytes
    · exact ⟨_, r, hr, q.lacksReceipt_of_answer hverdict hanswer⟩
  constructor
  · constructor
    · intro h address r hr hlacks
      exact h (dispatched_of_mem_replies hr) _ (hleak address r hr hlacks) rfl
    · intro h
      by_contra habsorbs
      obtain ⟨address, r, hr, hlacks⟩ := hescape habsorbs
      exact h address r hr hlacks
  · intro h
    obtain ⟨address, r, hr, hlacks⟩ := hescape h
    exact hleak address r hr hlacks

/-! ## Copies that cannot be sent -/

/-- Whether the request with a copy is not too long to be sent. -/
def NodeCopy.Writable (c : NodeCopy) : Prop :=
  (Wire.encode? Wire.request (.submit c.signed)).isSome = true

namespace NodeCopy

variable {c : NodeCopy} {e : Error}

/-- In a request a copy takes four bytes more than by itself. -/
theorem hash_of_writable (h : c.Writable) : ∃ b, c.hash = .ok b := by
  obtain ⟨request, hrequest⟩ := Option.isSome_iff_exists.mp h
  obtain ⟨rfl, hle⟩ := Wire.length_le_of_encode? hrequest
  have hwrite : Wire.request.write (.submit c.signed) =
      Bytes.ofNatLE 4 0 ++ Wire.signedTransaction.write c.signed := rfl
  rw [hwrite, List.length_append] at hle
  rw [hash, Wire.encode?, if_pos (by omega)]
  exact ⟨_, rfl⟩

theorem hash_eq_error (h : c.hash = .error e) : e = .wire .tooLong := by
  unfold hash at h
  split at h
  · cases h
  · cases h
    rfl

theorem not_writable_of_hash (h : c.hash = .error e) : ¬ c.Writable := by
  intro hwritable
  obtain ⟨b, hb⟩ := hash_of_writable hwritable
  rw [hb] at h
  cases h

end NodeCopy

namespace Frozen

variable {f : Frozen} {account : EntityId} {e : Error}

theorem mem_of_copyFor {c : NodeCopy} (h : f.copyFor account = .ok c) : c ∈ f.copies :=
  List.mem_of_find?_eq_some (copyFor_eq_ok_iff.mp h)

/-- Not to have a copy for a node is no trouble of the network. -/
theorem kind_of_copyFor (h : f.copyFor account = .error e) : e.kind = .validation := by
  unfold copyFor at h
  split at h
  · cases h
  · cases h
    rfl

/-- What needs the digest of a copy only fails with trouble of the network if the copy is too long.
-/
theorem tooLong_of_digest {β : Type} {use : NodeCopy → Bytes → β}
    (h : (f.copyFor account >>= fun c => c.hash >>= fun digest => pure (use c digest)) = .error e)
    (hkind : e.kind = .network) : e = .wire .tooLong ∧ ∃ c ∈ f.copies, ¬ c.Writable := by
  obtain hcopy | ⟨c, hcopy, hrest⟩ := bind_eq_error.mp h
  · rw [kind_of_copyFor hcopy] at hkind
    cases hkind
  · obtain hhash | ⟨digest, -, hend⟩ := bind_eq_error.mp hrest
    · exact ⟨NodeCopy.hash_eq_error hhash, c, mem_of_copyFor hcopy,
        NodeCopy.not_writable_of_hash hhash⟩
    · cases hend

/-- A request only fails with trouble of the network if its copy is too long to be sent. -/
theorem tooLong_of_bytes (h : f.inquiry.bytes account = .error e) (hkind : e.kind = .network) :
    e = .wire .tooLong ∧ ∃ c ∈ f.copies, ¬ c.Writable := by
  obtain hrequest | ⟨asked, hasked, hencode⟩ := bind_eq_error.mp h
  · exact tooLong_of_digest hrequest hkind
  · obtain ⟨c, hcopy, hasked⟩ := bind_eq_ok.mp hasked
    obtain ⟨digest, -, hasked⟩ := bind_eq_ok.mp hasked
    cases hasked
    cases hsent : Wire.encode? Wire.request (.submit c.signed) with
    | some b =>
      rw [hsent] at hencode
      cases hencode
    | none =>
      rw [hsent] at hencode
      cases hencode
      exact ⟨rfl, c, mem_of_copyFor hcopy, by simp [NodeCopy.Writable, hsent]⟩

/-- So does what is made of an answer, for which the copy is written once more. -/
theorem tooLong_of_answer {r : Response} (h : f.inquiry.answer account r = .error e)
    (hkind : e.kind = .network) : e = .wire .tooLong ∧ ∃ c ∈ f.copies, ¬ c.Writable :=
  tooLong_of_digest h hkind

end Frozen

/-! ## Transactions -/

section Freezing

variable (host : Host ω κ) (s : Session ω κ) (d : Draft)

theorem adds_chooseId : Adds id (d.chooseId host.recorded) (d.chooseId host) s
    fun added _ => ∀ e ∈ added, e.isReading = true := by
  unfold Draft.chooseId
  cases d.id with
  | some name =>
    apply adds_client_bind
    exact adds_pure id _ (by simp)
  | none =>
    apply adds_client_bind
    simp only [Client.labelled]
    cases s.client.operator with
    | none => exact adds_pure id _ (by simp)
    | some operator =>
      have hdate : Adds id (outside host.recorded.date : Run _ (Line κ) Int) (outside host.date) s
          fun added n => added = [.date n] :=
        adds_outside id .date fun _ _ => rfl
      apply hdate.bind
      rintro _ now s - rfl
      have hrandom : Adds id (outside host.recorded.random : Run _ (Line κ) Nat)
          (outside host.random) s fun added n => added = [.random n] :=
        adds_outside id .random fun _ _ => rfl
      apply hrandom.bind
      rintro _ jitter s - rfl
      exact adds_pure id _ (by simp [Event.isReading])

theorem adds_chooseNodes : Adds id (d.chooseNodes host.recorded) (d.chooseNodes host) s
    fun added _ => ∀ e ∈ added, e.isReading = true := by
  unfold Draft.chooseNodes
  cases d.nodes with
  | nil =>
    apply adds_client_bind
    apply (adds_sample host s _).bind
    intro added nodes s _ hadded
    cases nodes with
    | nil =>
      refine adds_pure id _ ?_
      rwa [List.append_nil]
    | cons node rest =>
      refine adds_pure id _ ?_
      rwa [List.append_nil]
  | cons account rest => exact adds_pure id _ (by simp)

theorem adds_draft_freezeWith : Adds id (d.freezeWith host.recorded) (d.freezeWith host) s
    fun added _ => ∀ e ∈ added, e.isReading = true := by
  apply (adds_chooseId host s d).bind
  intro first name s _ hfirst
  cases name with
  | error e =>
    refine adds_pure id _ ?_
    rwa [List.append_nil]
  | ok name =>
    apply (adds_chooseNodes host s d).bind
    intro second nodes s _ hsecond
    have hboth := List.forall_mem_append.mpr ⟨hfirst, hsecond⟩
    cases nodes with
    | error e =>
      refine adds_pure id _ ?_
      rwa [List.append_nil]
    | ok nodes =>
      apply adds_client_bind
      refine adds_pure id _ ?_
      rwa [List.append_nil]

/-- Freezing reads the clocks and draws numbers, and that is all. -/
theorem adds_freezeWith (t : Transaction) :
    Adds id (t.freezeWith host.recorded) (t.freezeWith host) s
      fun added _ => ∀ e ∈ added, e.isReading = true := by
  cases t with
  | draft d =>
    apply (adds_draft_freezeWith host s d).bind
    intro added f s _ hadded
    refine adds_pure id _ ?_
    rwa [List.append_nil]
  | frozen f => exact adds_pure id _ (by simp)
  | executed f => exact adds_pure id _ (by simp)

/-- What executing a transaction adds to the log. If it can be frozen, its inquiry runs for the
copies that it then has. -/
inductive Transaction.Executes (κ : Type) (deadline : Option Moment) :
    List Event → Except Error Acceptance × Transaction → Prop
  | refused {log : List Event} {r : Except Error Acceptance × Transaction}
      (h : ∀ e ∈ log, e.isReading = true) : Executes κ deadline log r
  | put {opening course : List Event} {f : Frozen} {c : Client κ}
      {candidates : Except Error (List Node)} {r : Except Error Acceptance × Transaction}
      (hopening : ∀ e ∈ opening, e.isReading = true)
      (hcourse : f.inquiry.Runs c candidates deadline course r.1)
      (hcopies : r.2.copies = f.copies) :
      Executes κ deadline (opening ++ course) r

theorem adds_execute (t : Transaction) (deadline : Option Moment) :
    Adds id (t.execute host.recorded deadline) (t.execute host deadline) s
      (Transaction.Executes κ deadline) := by
  apply (adds_freezeWith host s t).bind
  intro opening frozen? s' hfreeze hopening
  cases frozen? with
  | error e =>
    refine adds_pure id _ ?_
    rw [List.append_nil]
    exact .refused hopening
  | ok u =>
    obtain ⟨f, rfl⟩ := Transaction.frozen_of_freezeWith host (congrArg Prod.fst hfreeze)
    apply adds_client_bind
    apply (Inquiry.adds_run host s' (f.signByPayer s'.client.operator).inquiry deadline).bind
    intro course result s'' _ hcourse
    cases result with
    | ok a =>
      refine adds_pure id _ ?_
      rw [List.append_nil]
      exact .put hopening hcourse rfl
    | error e =>
      refine adds_pure id _ ?_
      rw [List.append_nil]
      exact .put hopening hcourse rfl

end Freezing

/-- Executing a transaction keeps trouble of the network from its caller unless it comes to a copy
that is too long to be sent. -/
theorem adds_execute_absorbs (t : Transaction) (host : Host ω κ) (deadline : Option Moment)
    (s : Session ω κ) :
    Adds id (t.execute host.recorded deadline) (t.execute host deadline) s fun log r =>
      (¬ Absorbs log r.1 → r.1 = .error (.wire .tooLong) ∧ ∃ c ∈ r.2.copies, ¬ c.Writable) := by
  apply (adds_execute host s t deadline).mono
  intro log r hexecutes hnot
  simp only [Absorbs, not_forall, not_not] at hnot
  obtain ⟨hdispatched, e, hresult, hkind⟩ := hnot
  cases hexecutes with
  | refused hopening => exact absurd hdispatched (not_dispatched_of_isReading hopening)
  | @put opening course f c candidates r hopening hcourse hcopies =>
    have hreached : Dispatched course :=
      (dispatched_append.mp hdispatched).resolve_left (not_dispatched_of_isReading hopening)
    obtain ⟨nodes, hconcludes⟩ := Inquiry.concludes_of_runs hcourse hreached
    rw [hresult] at hconcludes ⊢
    rw [hcopies]
    obtain ⟨node, -, hbytes⟩ | ⟨node, -, response, -, -, hanswer⟩ := hconcludes.escape hkind
    · obtain ⟨rfl, hlong⟩ := Frozen.tooLong_of_bytes hbytes hkind
      exact ⟨rfl, hlong⟩
    · obtain ⟨rfl, hlong⟩ := Frozen.tooLong_of_answer hanswer hkind
      exact ⟨rfl, hlong⟩

/-! ## Both -/

/-- When the caller of a question or of a transaction that reached a node gets trouble of the
network after all. -/
theorem absorbs_iff (host : Host ω κ) (deadline : Option Moment) (s : Session ω κ) :
    (∀ q : ReceiptQuery,
      Adds id (q.run host.recorded deadline) (q.run host deadline) s fun log result =>
        (Absorbs log result ↔
          ∀ address r, (address, .ok r) ∈ replies log → ¬ r.LacksReceipt) ∧
        (¬ Absorbs log result → result = .error (.wire .noReceipt))) ∧
    ∀ t : Transaction,
      Adds id (t.execute host.recorded deadline) (t.execute host deadline) s fun log r =>
        (Absorbs log r.1 ↔ ¬ (Dispatched log ∧ r.1 = .error (.wire .tooLong))) ∧
        ((∀ c ∈ r.2.copies, c.Writable) → Absorbs log r.1) := by
  refine ⟨fun q => adds_query_absorbs q host deadline s, fun t => ?_⟩
  apply (adds_execute_absorbs t host deadline s).mono
  intro log r hescape
  constructor
  · constructor
    · rintro habsorbs ⟨hdispatched, hresult⟩
      exact habsorbs hdispatched _ hresult rfl
    · intro h
      by_contra habsorbs
      have hdispatched : Dispatched log := by
        by_contra hnot
        exact habsorbs fun hdispatched => absurd hdispatched hnot
      exact h ⟨hdispatched, (hescape habsorbs).1⟩
  · intro hwritable
    by_contra habsorbs
    obtain ⟨-, c, hc, hlong⟩ := hescape habsorbs
    exact hlong (hwritable c hc)

/-- A question for a receipt that is answered by success and nothing else. -/
theorem not_absorbs_lacksReceipt :
    ¬ ∀ (q : ReceiptQuery) (deadline : Option Moment) (s : Session Moment Unit),
      Absorbs (log (q.run Transaction.acceptingHost.recorded deadline) s)
        (q.run Transaction.acceptingHost deadline s).1 := by
  intro h
  let q : ReceiptQuery :=
    ⟨some ⟨⟨⟨0, 0, 5⟩, none⟩, .ofNanos 1000000000, none, false⟩,
      [Transaction.acceptingNode]⟩
  have hdispatched : Dispatched
      (log (q.run Transaction.acceptingHost.recorded none) Transaction.operatorlessSession) := by
    unfold Dispatched
    decide +kernel
  have hresult : (q.run Transaction.acceptingHost none Transaction.operatorlessSession).1 =
      .error (.wire .noReceipt) := by
    decide +kernel
  exact h q none Transaction.operatorlessSession hdispatched _ hresult rfl

end HbarKit
