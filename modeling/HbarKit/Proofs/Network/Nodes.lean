import HbarKit.Network.Client
import Mathlib.Data.List.Nodup
import Mathlib.Data.List.Perm.Basic
import Mathlib.Tactic

/-!
# The nodes of a client

A client keeps the nodes of its network. What it changes about them is their health: a change for
one address leaves the nodes at all others as they are, and a node that is not benched now is not
benched later unless it fails.
-/
namespace HbarKit

variable {κ : Type}

/-- Where a node is and whose it is, apart from how it has done. -/
def Node.place (n : Node) : String × EntityId := (n.address, n.account)

@[simp] theorem Node.place_bench (n : Node) (now : Moment) : (n.bench now).2.place = n.place := rfl

@[simp] theorem Node.place_readmit (n : Node) : n.readmit.place = n.place := rfl

/-- Who may be asked now may be asked later. -/
theorem Health.isGood_of_le {h : Health} {now later : Moment} (hle : now ≤ later)
    (hgood : h.isGood now = true) : h.isGood later = true := by
  unfold isGood at hgood ⊢
  cases hreadmission : h.readmission with
  | none => rfl
  | some t =>
    simp only [hreadmission, decide_eq_true_eq] at hgood ⊢
    exact Nat.le_trans hgood hle

namespace Client

variable {c : Client κ} {network : List (String × EntityId)}

/-- The client has the nodes of a network in their order, whatever it has made of them since. -/
def Serves (c : Client κ) (network : List (String × EntityId)) : Prop :=
  c.nodes.map Node.place = (ofNetwork network : Client κ).nodes.map Node.place

theorem serves_ofNetwork (network : List (String × EntityId)) :
    (ofNetwork network : Client κ).Serves network := rfl

/-- The nodes are the entries of the network, each of them once. -/
theorem Serves.perm (h : c.Serves network) : (c.nodes.map Node.place).Perm network := by
  rw [h]
  have hsort : (ofNetwork network : Client κ).nodes.Perm
      (network.map fun entry => Node.new entry.2 entry.1) := List.mergeSort_perm _ _
  have hplaces := hsort.map Node.place
  rwa [List.map_map, List.map_id''] at hplaces
  exact fun _ => rfl

/-- A network is a map, so no two nodes have one address. -/
theorem Serves.nodup (h : c.Serves network) (hmap : (network.map Prod.fst).Nodup) :
    (c.nodes.map Node.address).Nodup := by
  have haddresses := (h.perm.map Prod.fst).nodup_iff.mpr hmap
  rwa [List.map_map] at haddresses

/-! ## Changes at an address -/

theorem map_place_atNode (c : Client κ) (address : String) {change : Node → Node}
    (hchange : ∀ n, (change n).place = n.place) :
    (c.atNode address change).nodes.map Node.place = c.nodes.map Node.place := by
  simp only [atNode, List.map_map]
  apply List.map_congr_left
  intro n _
  simp only [Function.comp_apply]
  split
  · exact hchange n
  · rfl

/-- A change at one address is none at another. -/
theorem nodeAt?_atNode_of_ne {address other : String} (hne : other ≠ address)
    {change : Node → Node} (hchange : ∀ n, (change n).place = n.place) :
    (c.atNode address change).nodeAt? other = c.nodeAt? other := by
  simp only [nodeAt?, atNode]
  induction c.nodes with
  | nil => rfl
  | cons n rest ih =>
    rw [List.map_cons, List.find?_cons, List.find?_cons, ih]
    by_cases hn : n.address = address
    · have hsame : (change n).address = n.address := congrArg Prod.fst (hchange n)
      have hother : address ≠ other := hne.symm
      simp [hn, hsame, hother]
    · simp [hn]

/-- A node of which nothing was changed is not benched later if it is not benched now. -/
theorem isHealthy_of_le {c' : Client κ} {address : String} {now later : Moment}
    (hsame : c'.nodeAt? address = c.nodeAt? address) (hle : now ≤ later)
    (hhealthy : c.isHealthy now address = true) : c'.isHealthy later address = true := by
  unfold isHealthy at hhealthy ⊢
  rw [hsame]
  cases hnode : c.nodeAt? address with
  | none => rfl
  | some n =>
    rw [hnode] at hhealthy
    exact Health.isGood_of_le hle hhealthy

end Client

end HbarKit
