import HbarKit.Proofs.Transaction.Resolution

/-!
# The order of the nodes

A network is a map from addresses to accounts, and its entries come in any order. The nodes of a
client stand by the numbers of their accounts and those of one account by their addresses, and what
checksums the accounts carry plays no part. As no two entries have one address, that tells all nodes
apart: the client is the same in whatever order its network was listed, and the node that it finds
for an account is the one with the least address.
-/
namespace HbarKit

variable {κ : Type}

/-! ## Entries of a network in order -/

/-- The order of the entries of a network: by shard, by realm, by number, and the entries of one
account by address. -/
inductive Precedes (a b : String × EntityId) : Prop
  | shard (h : a.2.address.shard < b.2.address.shard)
  | realm (hshard : a.2.address.shard = b.2.address.shard)
      (h : a.2.address.realm < b.2.address.realm)
  | num (hshard : a.2.address.shard = b.2.address.shard)
      (hrealm : a.2.address.realm = b.2.address.realm) (h : a.2.address.num < b.2.address.num)
  | address (haccount : a.2.address = b.2.address) (h : a.1 < b.1)

theorem Address.compare_eq_eq_iff {a b : Address} : a.compare b = .eq ↔ a = b := by
  obtain ⟨shard, realm, num⟩ := a
  obtain ⟨shard', realm', num'⟩ := b
  simp [compare, Ordering.then_eq_eq]

theorem Address.compare_eq_lt_iff {a b : Address} : a.compare b = .lt ↔
    a.shard < b.shard ∨ a.shard = b.shard ∧
      (a.realm < b.realm ∨ a.realm = b.realm ∧ a.num < b.num) := by
  simp [compare, Ordering.then_eq_lt, Std.compare_eq_lt]

/-- Nodes are compared by that order of their places. -/
theorem Node.compare_eq_lt_iff {a b : Node} :
    a.compare b = .lt ↔ Precedes a.place b.place := by
  rw [compare, Ordering.then_eq_lt, Address.compare_eq_lt_iff, Address.compare_eq_eq_iff,
    compare_lt_iff_lt]
  constructor
  · rintro ((h | ⟨hshard, h | ⟨hrealm, h⟩⟩) | ⟨haccount, h⟩)
    · exact .shard h
    · exact .realm hshard h
    · exact .num hshard hrealm h
    · exact .address haccount h
  · intro h
    cases h with
    | shard h => exact .inl (.inl h)
    | realm hshard h => exact .inl (.inr ⟨hshard, .inl h⟩)
    | num hshard hrealm h => exact .inl (.inr ⟨hshard, .inr ⟨hrealm, h⟩⟩)
    | address haccount h => exact .inr ⟨haccount, h⟩

theorem Node.compare_eq_eq_iff {a b : Node} :
    a.compare b = .eq ↔ a.account.address = b.account.address ∧ a.address = b.address := by
  rw [compare, Ordering.then_eq_eq, Address.compare_eq_eq_iff, compare_eq_iff_eq]

instance : Std.TransCmp Address.compare :=
  inferInstanceAs (Std.TransCmp (compareLex (compareOn Address.shard)
    (compareLex (compareOn Address.realm) (compareOn Address.num))))

instance : Std.TransCmp fun a b : Node => a.account.address.compare b.account.address where
  eq_swap {a b} :=
    @Std.OrientedCmp.eq_swap _ Address.compare _ a.account.address b.account.address
  isLE_trans {a b c} :=
    @Std.TransCmp.isLE_trans _ Address.compare _ a.account.address b.account.address
      c.account.address

instance : Std.TransCmp Node.compare :=
  inferInstanceAs (Std.TransCmp (compareLex
    (fun a b : Node => a.account.address.compare b.account.address) (compareOn Node.address)))

/-- Identifiers of one entity are the same as the same others. -/
theorem EntityId.same_eq_of_same {a b : EntityId} (h : a.same b = true) (id : EntityId) :
    id.same a = id.same b := by
  rw [EntityId.same, EntityId.same, beq_iff_eq.mp h]

/-- Entries of one account are in the order of their addresses. -/
theorem Precedes.lt_of_same {a b : String × EntityId} (h : Precedes a b)
    (hsame : b.2.same a.2 = true) : a.1 < b.1 := by
  have haccount : b.2.address = a.2.address := beq_iff_eq.mp hsame
  cases h with
  | shard h => simp [haccount] at h
  | realm _ h => simp [haccount] at h
  | num _ _ h => simp [haccount] at h
  | address _ h => exact h

/-- Of the places in order, the one that leads for an account has the least address. -/
theorem Leads.le {places : List (String × EntityId)} (hordered : places.Pairwise Precedes)
    {place other : String × EntityId} (h : Leads places place) (hother : other ∈ places)
    (hsame : other.2.same place.2 = true) : place.1 ≤ other.1 := by
  obtain ⟨before, after, rfl, hbefore⟩ := h
  obtain hother | hother := List.mem_append.mp hother
  · rw [hbefore other hother] at hsame
    cases hsame
  · obtain rfl | hother := List.mem_cons.mp hother
    · exact le_refl _
    · have hafter := (List.pairwise_cons.mp (List.pairwise_append.mp hordered).2.1).1
      exact ((hafter other hother).lt_of_same hsame).le

/-! ## Nodes in order -/

namespace Client

variable {network : List (String × EntityId)}

/-- The nodes of a client stand in strict order, for no two of them have one address. -/
theorem pairwise_ofNetwork (hmap : (network.map Prod.fst).Nodup) :
    (ofNetwork network : Client κ).nodes.Pairwise fun a b => a.compare b = .lt := by
  have hsorted : (ofNetwork network : Client κ).nodes.Pairwise fun a b =>
      (a.compare b).isLE = true := by
    apply List.pairwise_mergeSort
    · exact fun a b c => Std.TransCmp.isLE_trans
    · intro a b
      rw [@Std.OrientedCmp.eq_swap _ Node.compare _ b a]
      cases a.compare b <;> rfl
  have hdistinct : (ofNetwork network : Client κ).nodes.Pairwise fun a b =>
      a.address ≠ b.address :=
    List.pairwise_map.mp ((serves_ofNetwork network).nodup hmap)
  refine hsorted.imp₂ (fun a b hle hne => ?_) hdistinct
  cases hcompare : a.compare b with
  | lt => rfl
  | eq => exact absurd (Node.compare_eq_eq_iff.mp hcompare).2 hne
  | gt =>
    rw [hcompare] at hle
    cases hle

theorem perm_ofNetwork (network : List (String × EntityId)) :
    (ofNetwork network : Client κ).nodes.Perm (network.map fun e => Node.new e.2 e.1) :=
  List.mergeSort_perm _ _

/-- The client does not depend on the order in which its network is listed. -/
theorem ofNetwork_eq_of_perm (hmap : (network.map Prod.fst).Nodup)
    {listed : List (String × EntityId)} (hperm : listed.Perm network) :
    (ofNetwork listed : Client κ) = ofNetwork network := by
  have hlisted : (listed.map Prod.fst).Nodup := (hperm.map Prod.fst).nodup_iff.mpr hmap
  have hnodes : (ofNetwork listed : Client κ).nodes.Perm (ofNetwork network : Client κ).nodes :=
    ((perm_ofNetwork listed).trans (hperm.map _)).trans (perm_ofNetwork network).symm
  have hsame : (ofNetwork listed : Client κ).nodes = (ofNetwork network : Client κ).nodes := by
    -- A strict order leaves no two ways to arrange the same nodes.
    apply hnodes.eq_of_pairwise (fun a b _ _ hab hba => ?_) (pairwise_ofNetwork hlisted)
      (pairwise_ofNetwork hmap)
    exact absurd hba (Std.OrientedCmp.not_lt_of_lt hab)
  calc (ofNetwork listed : Client κ)
      = { (ofNetwork network : Client κ) with nodes := (ofNetwork listed : Client κ).nodes } := rfl
    _ = ofNetwork network := by rw [hsame]

theorem Serves.pairwise {c : Client κ} (h : c.Serves network)
    (hmap : (network.map Prod.fst).Nodup) : (c.nodes.map Node.place).Pairwise Precedes := by
  rw [h, List.pairwise_map]
  exact (pairwise_ofNetwork hmap).imp Node.compare_eq_lt_iff.mp

/-! ## The node of an account -/

/-- What is found for an account: an entry of the network for it, of which no other one for it has a
lesser address. -/
structure Foremost (network : List (String × EntityId)) (account : EntityId) (n : Node) : Prop where
  entry : n.place ∈ network
  same : n.account.same account = true
  least : ∀ e ∈ network, e.2.same account = true → n.address ≤ e.1

/-- A client finds the foremost node of every account that its network has, whatever it has made of
its nodes since. -/
theorem Serves.exists_nodeOf {c : Client κ} (h : c.Serves network)
    (hmap : (network.map Prod.fst).Nodup) {account : EntityId}
    (hknown : ∃ e ∈ network, e.2.same account = true) :
    ∃ n, c.nodeOf account = .ok n ∧ Foremost network account n := by
  have hmem : ∀ e, e ∈ c.nodes.map Node.place ↔ e ∈ network := fun e => h.perm.mem_iff
  have hplace := c.place_nodeOf account
  cases hfound : c.nodeOf account with
  | error e =>
    obtain ⟨entry, hentry, hsame⟩ := hknown
    rw [hfound] at hplace
    have hnone := List.find?_eq_none.mp hplace.symm entry ((hmem entry).mpr hentry)
    exact absurd hsame hnone
  | ok n =>
    rw [hfound] at hplace
    have hfirst : (c.nodes.map Node.place).find? (fun p => p.2.same account) = some n.place :=
      hplace.symm
    have haccount : n.account.same account = true := by
      have hsame := List.find?_some hfirst
      exact hsame
    -- The account of the node may carry another checksum than the one that was asked for.
    have halike := EntityId.same_eq_of_same haccount
    have hleads : Leads (c.nodes.map Node.place) n.place := by
      apply find?_eq_some_iff_leads.mp
      rw [← hfirst]
      exact List.find?_congr fun p _ => halike p.2
    refine ⟨n, rfl, ?_⟩
    constructor
    case entry => exact (hmem _).mp (List.mem_of_find?_eq_some hfirst)
    case same => exact haccount
    case least =>
      intro e he hsame
      rw [← halike] at hsame
      exact hleads.le (h.pairwise hmap) ((hmem e).mpr he) hsame

theorem Serves.exists_nodesOf {c : Client κ} (h : c.Serves network)
    (hmap : (network.map Prod.fst).Nodup) {accounts : List EntityId}
    (hknown : ∀ a ∈ accounts, ∃ e ∈ network, e.2.same a = true) :
    ∃ nodes, c.nodesOf accounts = .ok nodes ∧
      List.Forall₂ (Foremost network) accounts nodes := by
  induction accounts with
  | nil => exact ⟨[], rfl, .nil⟩
  | cons account rest ih =>
    obtain ⟨haccount, hrest⟩ := List.forall_mem_cons.mp hknown
    obtain ⟨n, hn, hforemost⟩ := h.exists_nodeOf hmap haccount
    obtain ⟨nodes, hnodes, hall⟩ := ih hrest
    refine ⟨n :: nodes, ?_, .cons hforemost hall⟩
    unfold nodesOf at hnodes ⊢
    rw [List.mapM_cons, hn, hnodes]
    rfl

/-- A network that names no address twice makes the same client in whatever order it is listed. The
nodes of the client are the entries in strict order, and of the nodes of an account the client finds
the one with the least address. -/
theorem ofNetwork_canonical (hmap : (network.map Prod.fst).Nodup) :
    (∀ listed, listed.Perm network → (ofNetwork listed : Client κ) = ofNetwork network) ∧
      (ofNetwork network : Client κ).nodes.Perm (network.map fun e => Node.new e.2 e.1) ∧
      ((ofNetwork network : Client κ).nodes.map Node.place).Pairwise Precedes ∧
      ∀ c : Client κ, c.Serves network →
        ∀ accounts, (∀ a ∈ accounts, ∃ e ∈ network, e.2.same a = true) →
          ∃ nodes, c.nodesOf accounts = .ok nodes ∧
            List.Forall₂ (Foremost network) accounts nodes := by
  refine ⟨?_, perm_ofNetwork network, (serves_ofNetwork network).pairwise hmap, ?_⟩
  · exact fun listed hperm => ofNetwork_eq_of_perm hmap hperm
  · exact fun c hserves accounts hknown => hserves.exists_nodesOf hmap hknown

/-- A network in which one account has two addresses, at one of them with a checksum. -/
def checkedNetwork : List (String × EntityId) :=
  [("b:50211", ⟨⟨0, 0, 3⟩, some "tzfmz"⟩), ("c:50211", ⟨⟨0, 0, 4⟩, none⟩),
    ("a:50211", ⟨⟨0, 0, 3⟩, none⟩)]

theorem ofNetwork_canonical_checked :
    (checkedNetwork.map Prod.fst).Nodup ∧
      (ofNetwork checkedNetwork.reverse : Client Unit) = ofNetwork checkedNetwork ∧
      ∃ n, (ofNetwork checkedNetwork : Client Unit).nodesOf [.ofNum 3] = .ok [n] ∧
        n.address = "a:50211" := by
  have hmap : (checkedNetwork.map Prod.fst).Nodup := by decide
  obtain ⟨hsame, -, -, hfind⟩ := ofNetwork_canonical (κ := Unit) hmap
  refine ⟨hmap, hsame _ (List.reverse_perm _), ?_⟩
  obtain ⟨nodes, hnodes, hforemost⟩ := hfind _ (serves_ofNetwork _) [.ofNum 3] (by decide)
  cases hforemost with
  | @cons _ n _ _ hn hnil =>
    cases hnil
    refine ⟨n, hnodes, ?_⟩
    have hleast : n.address ≤ "a:50211" :=
      hn.least ("a:50211", ⟨⟨0, 0, 3⟩, none⟩) (by decide) (by decide)
    have hentry := hn.entry
    simp only [checkedNetwork, Node.place, List.mem_cons, Prod.mk.injEq, List.not_mem_nil,
      or_false] at hentry
    obtain ⟨haddress, -⟩ | ⟨haddress, -⟩ | ⟨haddress, -⟩ := hentry
    · rw [haddress] at hleast
      exact absurd hleast (by decide)
    · rw [haddress] at hleast
      exact absurd hleast (by decide)
    · exact haddress

end Client

end HbarKit
