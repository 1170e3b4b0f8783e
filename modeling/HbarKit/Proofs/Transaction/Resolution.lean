import HbarKit.Proofs.Network.Nodes
import HbarKit.Proofs.Network.Sampling
import HbarKit.Proofs.Transaction.Delivery

/-!
# The nodes of a frozen transaction

A client that freezes a draft without nodes samples some of its own, but what the transaction keeps
of them is their accounts. When it is put to the nodes the client looks the accounts up again, and
of the nodes of one account it finds the first. So what was sampled is what is asked exactly when
each node that was sampled stands before all others of its account, as it does in a network that
names no account twice.
-/
namespace HbarKit

open Run

variable {ω κ α : Type}

/-! ## Looking accounts up -/

/-- A place in a network of which the account has no place before it. -/
def Leads (places : List (String × EntityId)) (place : String × EntityId) : Prop :=
  ∃ before after, places = before ++ place :: after ∧
    ∀ other ∈ before, other.2.same place.2 = false

@[simp] theorem EntityId.same_self (id : EntityId) : id.same id = true := beq_self_eq_true _

theorem find?_eq_some_iff_leads {places : List (String × EntityId)} {place : String × EntityId} :
    (places.find? fun p => p.2.same place.2) = some place ↔ Leads places place := by
  rw [List.find?_eq_some_iff_append]
  simp [Leads]

/-- Where no account has two places, every place leads. -/
theorem leads_of_nodup {places : List (String × EntityId)}
    (h : (places.map fun p => p.2.address).Nodup) {place : String × EntityId}
    (hmem : place ∈ places) : Leads places place := by
  obtain ⟨before, after, rfl⟩ := List.append_of_mem hmem
  refine ⟨before, after, rfl, fun other hother => ?_⟩
  rw [List.map_append, List.nodup_append] at h
  have hne := h.2.2 _ (List.mem_map_of_mem hother) _ (List.mem_map_of_mem List.mem_cons_self)
  simpa [EntityId.same] using hne

namespace Client

variable (c : Client κ)

/-- What is found for an account depends on the places of the nodes alone. -/
theorem place_nodeOf (account : EntityId) :
    (c.nodeOf account).toOption.map Node.place =
      (c.nodes.map Node.place).find? fun p => p.2.same account := by
  rw [List.find?_map]
  unfold nodeOf
  have hsame : ((fun p : String × EntityId => p.2.same account) ∘ Node.place) =
      fun n => n.account.same account := rfl
  rw [hsame]
  cases c.nodes.find? fun n => n.account.same account with
  | none => rfl
  | some n => rfl

/-- Nodes of the client are found again by their accounts, each of them where it leads. -/
theorem nodesOf_accounts {nodes : List Node}
    (hnodes : ∀ n ∈ nodes, n.place ∈ c.nodes.map Node.place) :
    ∃ resolved, c.nodesOf (nodes.map Node.account) = .ok resolved ∧
      (resolved.map Node.place = nodes.map Node.place ↔
        ∀ n ∈ nodes, Leads (c.nodes.map Node.place) n.place) := by
  induction nodes with
  | nil => exact ⟨[], rfl, by simp⟩
  | cons n rest ih =>
    obtain ⟨hn, hrest⟩ := List.forall_mem_cons.mp hnodes
    obtain ⟨resolved, hresolved, hiff⟩ := ih hrest
    have hplace := c.place_nodeOf n.account
    have hlead : (c.nodes.map Node.place).find? (fun p => p.2.same n.account) = some n.place ↔
        Leads (c.nodes.map Node.place) n.place :=
      @find?_eq_some_iff_leads (c.nodes.map Node.place) n.place
    rw [← hplace] at hlead
    cases hfound : c.nodeOf n.account with
    | error e =>
      rw [hfound] at hplace
      have hnone := List.find?_eq_none.mp hplace.symm _ hn
      simp [Node.place] at hnone
    | ok found =>
      rw [hfound] at hlead
      refine ⟨found :: resolved, ?_, ?_⟩
      · unfold nodesOf at hresolved ⊢
        rw [List.map_cons, List.mapM_cons, hfound, hresolved]
        rfl
      · rw [List.map_cons, List.map_cons, List.cons_eq_cons, hiff, List.forall_mem_cons, ← hlead]
        simp [Except.toOption]

end Client

/-! ## Freezing and looking up -/

namespace Draft

variable (host : Host ω κ) (d : Draft)

/-- The nodes that a client samples when it freezes a draft without nodes. -/
def sampled (s : Session ω κ) : List Node :=
  (sample host (d.chooseId host s).2.client.settings.maxNodes (d.chooseId host s).2).1

/-- What a session samples for a draft is what another session asks once the draft is frozen: the
same nodes in the same order. -/
def UsesSampled (s s' : Session ω κ) : Prop :=
  ∀ f, (d.freezeWith host s).1 = .ok f → ∃ resolved,
    (f.inquiry.candidates host s').1 = .ok resolved ∧
      resolved.map Node.place = (d.sampled host s).map Node.place

/-- A frozen transaction keeps the accounts of the nodes that were sampled, of which there are
some. -/
theorem nodes_of_freezeWith {s : Session ω κ} {f : Frozen} (hopen : d.nodes = [])
    (h : (d.freezeWith host s).1 = .ok f) :
    f.nodes = (d.sampled host s).map Node.account ∧ d.sampled host s ≠ [] := by
  unfold sampled
  simp only [freezeWith, bind_apply] at h
  cases hid : (d.chooseId host s).1 with
  | error e =>
    rw [hid] at h
    cases h
  | ok id =>
    simp only [hid, bind_apply, chooseNodes, hopen, client_apply] at h
    cases hsample : (sample host (d.chooseId host s).2.client.settings.maxNodes
        (d.chooseId host s).2).1 with
    | nil =>
      simp only [hsample] at h
      cases h
    | cons n rest =>
      simp only [hsample, pure_apply, bind_apply, client_apply] at h
      obtain ⟨copies, -, hcopies⟩ := bind_eq_ok.mp h
      cases hcopies
      exact ⟨rfl, List.cons_ne_nil _ _⟩

/-- What is sampled are nodes of the client. -/
theorem sampled_subset (s : Session ω κ) : d.sampled host s ⊆ s.client.nodes := by
  have hclient := (passive_chooseId host d).client_eq s
  rw [← hclient]
  exact (sampled_sample host _ _).subset

variable {host d}

/-- A client whose nodes stand where they stood asks what was sampled exactly when all that was
sampled leads. -/
theorem usesSampled_iff_leads {s s' : Session ω κ} {f : Frozen} (hopen : d.nodes = [])
    (hplaces : s'.client.nodes.map Node.place = s.client.nodes.map Node.place)
    (hfrozen : (d.freezeWith host s).1 = .ok f) :
    d.UsesSampled host s s' ↔
      ∀ n ∈ d.sampled host s, Leads (s.client.nodes.map Node.place) n.place := by
  obtain ⟨hnodes, hne⟩ := d.nodes_of_freezeWith host hopen hfrozen
  have hmem : ∀ n ∈ d.sampled host s, n.place ∈ s'.client.nodes.map Node.place := by
    intro n hn
    rw [hplaces]
    exact List.mem_map_of_mem (d.sampled_subset host s hn)
  obtain ⟨resolved, hresolved, hiff⟩ := s'.client.nodesOf_accounts hmem
  rw [hplaces] at hiff
  have hcandidates : (f.inquiry.candidates host s').1 = .ok resolved := by
    have hinquiry : f.inquiry.nodes = f.nodes := rfl
    rw [← hresolved, ← hnodes]
    simp only [Inquiry.candidates, bind_apply, client_apply, hinquiry]
    cases haccounts : f.nodes with
    | nil =>
      rw [haccounts] at hnodes
      exact absurd (List.map_eq_nil_iff.mp hnodes.symm) hne
    | cons account rest => rfl
  rw [← hiff]
  constructor
  · intro h
    obtain ⟨resolved', hresolved', hsame⟩ := h f hfrozen
    rw [hcandidates] at hresolved'
    cases hresolved'
    exact hsame
  · intro h f' hf'
    rw [hfrozen] at hf'
    cases hf'
    exact ⟨resolved, hcandidates, h⟩

/-- The frozen transaction keeps the accounts of the sample. A client whose nodes stand where they
stood asks what was sampled exactly when no node of the network stands before one of the sample and
has its account, in particular when no account of the network has two nodes. -/
theorem usesSampled_iff {s s' : Session ω κ} {f : Frozen} (hopen : d.nodes = [])
    (hplaces : s'.client.nodes.map Node.place = s.client.nodes.map Node.place)
    (hfrozen : (d.freezeWith host s).1 = .ok f) :
    f.nodes = (d.sampled host s).map Node.account ∧
    (d.UsesSampled host s s' ↔
      ∀ n ∈ d.sampled host s, Leads (s.client.nodes.map Node.place) n.place) ∧
    ((s.client.nodes.map fun n => n.account.address).Nodup → d.UsesSampled host s s') := by
  have hiff := usesSampled_iff_leads hopen hplaces hfrozen
  refine ⟨(d.nodes_of_freezeWith host hopen hfrozen).1, hiff, fun hnodup => hiff.mpr fun n hn => ?_⟩
  apply leads_of_nodup
  · rwa [List.map_map]
  · exact List.mem_map_of_mem (d.sampled_subset host s hn)

/-! ## One account at two addresses -/

/-- A network in which two addresses serve one account. -/
def twinNetwork : List (String × EntityId) := [("a:50211", .ofNum 3), ("b:50211", .ofNum 3)]

/-- A session with a client of that network that samples one node, with the first of its nodes in
some health. -/
def twinSession (health : Health) : Session Moment Unit where
  client :=
    { nodes := [⟨.ofNum 3, "a:50211", health⟩, .new (.ofNum 3) "b:50211"]
      pool := .empty Client.connectTime
      ledger := none
      operator := none
      settings := Settings.initial.setMaxNodes 1 }
  outside := 0

theorem serves_twinNetwork (health : Health) : (twinSession health).client.Serves twinNetwork := by
  have hnodes : (Client.ofNetwork twinNetwork : Client Unit).nodes =
      [.new (.ofNum 3) "a:50211", .new (.ofNum 3) "b:50211"] := by
    apply List.mergeSort_of_pairwise
    decide +kernel
  rw [Client.Serves, hnodes]
  rfl

/-- A draft that has a name and no nodes. -/
def twinDraft : Draft :=
  { Draft.new with id := some ⟨⟨⟨0, 0, 2⟩, none⟩, .ofNanos 0, none, false⟩ }

/-- It is frozen whatever the health of the first node is. -/
theorem exists_frozen_twin {health : Health}
    (h : (twinDraft.freezeWith Inquiry.offlineHost (twinSession health)).1.toOption.isSome = true) :
    ∃ f, (twinDraft.freezeWith Inquiry.offlineHost (twinSession health)).1 = .ok f := by
  cases hf : (twinDraft.freezeWith Inquiry.offlineHost (twinSession health)).1 with
  | ok f => exact ⟨f, rfl⟩
  | error e =>
    rw [hf] at h
    cases h

/-- The first node is asked if it is the one that was sampled, also when it is benched later. -/
theorem usesSampled_iff_twin :
    twinDraft.UsesSampled Inquiry.offlineHost (twinSession .good)
      (twinSession (Health.good.fail 0).2) := by
  obtain ⟨f, hf⟩ : ∃ f, (twinDraft.freezeWith Inquiry.offlineHost (twinSession .good)).1 = .ok f :=
    exists_frozen_twin (by decide +kernel)
  have hplaces : (twinSession (Health.good.fail 0).2).client.nodes.map Node.place =
      (twinSession .good).client.nodes.map Node.place := rfl
  apply (usesSampled_iff rfl hplaces hf).2.1.mpr
  have hsampled : twinDraft.sampled Inquiry.offlineHost (twinSession .good) =
      [.new (.ofNum 3) "a:50211"] := by decide +kernel
  rw [hsampled, List.forall_mem_singleton]
  exact ⟨[], _, rfl, by simp⟩

/-- While the first node is benched the second one is sampled, and the first one is asked. -/
theorem not_usesSampled_benched :
    (twinSession (Health.good.fail 0).2).client.Serves twinNetwork ∧
      (twinNetwork.map Prod.fst).Nodup ∧ twinDraft.nodes = [] ∧
      ¬ twinDraft.UsesSampled Inquiry.offlineHost (twinSession (Health.good.fail 0).2)
        (twinDraft.freezeWith Inquiry.offlineHost (twinSession (Health.good.fail 0).2)).2 := by
  refine ⟨serves_twinNetwork _, by decide, rfl, fun huses => ?_⟩
  obtain ⟨f, hf⟩ : ∃ f, (twinDraft.freezeWith Inquiry.offlineHost
      (twinSession (Health.good.fail 0).2)).1 = .ok f := exists_frozen_twin (by decide +kernel)
  have hsampled : twinDraft.sampled Inquiry.offlineHost (twinSession (Health.good.fail 0).2) =
      [.new (.ofNum 3) "b:50211"] := by decide +kernel
  have hclient := (passive_draft_freezeWith Inquiry.offlineHost twinDraft).client_eq
    (twinSession (Health.good.fail 0).2)
  have hplaces := congrArg (fun c => c.nodes.map Node.place) hclient
  have hleads := (usesSampled_iff_leads rfl hplaces hf).mp huses
  rw [hsampled, List.forall_mem_singleton, ← find?_eq_some_iff_leads] at hleads
  revert hleads
  decide +kernel

end Draft

end HbarKit
