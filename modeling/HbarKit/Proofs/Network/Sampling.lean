import HbarKit.Proofs.Network.Run
import Mathlib.Data.List.Nodup
import Mathlib.Data.List.Perm.Basic

/-!
# Samples of nodes

A client that is not told which nodes to ask draws some of its nodes. However the draws turn out,
a sample takes no node twice, is as long as it can be, has its benched nodes behind all others, and
takes a benched node only when no other is left.
-/
namespace HbarKit

variable {ω κ α : Type}

namespace Run

/-! ## Shuffles -/

/-- Choices put items in another order and lose none of them. -/
theorem perm_arrange (choices : List Nat) (items : List α) :
    (arrange choices items).Perm items := by
  induction choices generalizing items with
  | nil => exact .refl items
  | cons choice choices ih =>
    simp only [arrange]
    split
    · rename_i item hitem
      obtain ⟨hlt, rfl⟩ := List.getElem?_eq_some_iff.mp hitem
      exact ((ih _).cons _).trans (List.getElem_cons_eraseIdx_perm hlt)
    · exact .refl items

variable (host : Host ω κ) (s : Session ω κ)

theorem perm_shuffle (items : List α) : (shuffle host items s).1.Perm items :=
  perm_arrange _ items

end Run

/-! ## Samples -/

/-- The nodes of a client that are not benched at a moment. -/
def Client.healthy (c : Client κ) (now : Moment) : List Node :=
  c.nodes.filter fun n => n.isHealthy now

/-- The nodes of a client that are benched at a moment. -/
def Client.benched (c : Client κ) (now : Moment) : List Node :=
  c.nodes.filter fun n => !n.isHealthy now

theorem Client.perm_healthy_append_benched (c : Client κ) (now : Moment) :
    (c.healthy now ++ c.benched now).Perm c.nodes :=
  List.filter_append_perm _ c.nodes

/-- A fair choice of up to `count` nodes of a client at a moment. -/
structure Client.Sampled (c : Client κ) (now : Moment) (count : Nat) (nodes : List Node) :
    Prop where
  /-- Only nodes of the client are taken. -/
  subset : nodes ⊆ c.nodes
  /-- No node is taken twice. -/
  distinct : (c.nodes.map Node.address).Nodup → (nodes.map Node.address).Nodup
  /-- As many nodes are taken as there are, up to `count`. -/
  length : nodes.length = min count c.nodes.length
  /-- The nodes that are not benched come before those that are. -/
  ordered : ∃ healthy benched, nodes = healthy ++ benched ∧
    (∀ n ∈ healthy, n.isHealthy now = true) ∧ ∀ n ∈ benched, n.isHealthy now = false
  /-- A benched node is taken only along with all that are not benched. -/
  toppedUp : ∀ n ∈ nodes, n.isHealthy now = false → c.healthy now ⊆ nodes

section

variable {c : Client κ} {now : Moment} {healthy benched : List Node}

/-- Whatever the orders of the two kinds of nodes are. -/
theorem Client.sampled_take (count : Nat) (hhealthy : healthy.Perm (c.healthy now))
    (hbenched : benched.Perm (c.benched now)) :
    c.Sampled now count ((healthy ++ benched).take count) := by
  have hperm : (healthy ++ benched).Perm c.nodes :=
    (hhealthy.append hbenched).trans (c.perm_healthy_append_benched now)
  have hgood : ∀ n ∈ healthy, n.isHealthy now = true := by
    intro n hn
    exact (List.mem_filter.mp (hhealthy.subset hn)).2
  have hbad : ∀ n ∈ benched, n.isHealthy now = false := by
    intro n hn
    simpa using (List.mem_filter.mp (hbenched.subset hn)).2
  have htake : (healthy ++ benched).take count =
      healthy.take count ++ benched.take (count - healthy.length) := List.take_append
  constructor
  case subset => exact fun n hn => hperm.subset (List.mem_of_mem_take hn)
  case distinct =>
    intro hnodup
    have hall : ((healthy ++ benched).map Node.address).Nodup :=
      (hperm.map Node.address).nodup_iff.mpr hnodup
    exact hall.sublist ((List.take_sublist count _).map Node.address)
  case length => rw [List.length_take, hperm.length_eq]
  case ordered =>
    refine ⟨_, _, htake, ?_, ?_⟩
    · exact fun n hn => hgood n (List.mem_of_mem_take hn)
    · exact fun n hn => hbad n (List.mem_of_mem_take hn)
  case toppedUp =>
    intro n hn hbenched'
    rw [htake] at hn ⊢
    obtain hn | hn := List.mem_append.mp hn
    · rw [hgood n (List.mem_of_mem_take hn)] at hbenched'
      cases hbenched'
    · -- Some benched node is taken, so the sample reaches behind all that are not benched.
      have hmore : healthy.length ≤ count := by
        by_contra hless
        rw [Nat.sub_eq_zero_of_le (by omega), List.take_zero] at hn
        cases hn
      rw [List.take_of_length_le hmore]
      exact fun m hm => List.mem_append_left _ (hhealthy.mem_iff.mpr hm)

end

namespace Run

variable (host : Host ω κ) (count : Nat) (s : Session ω κ)

/-- A sample is a fair choice by the clock when it is drawn. -/
theorem sampled_sample :
    s.client.Sampled (host.now s.outside).1 count (sample host count s).1 := by
  simp only [sample, bind_apply, pure_apply, outside_apply, client_apply,
    List.partition_eq_filter_filter]
  exact Client.sampled_take count (perm_shuffle host _ _) (perm_shuffle host _ _)

theorem sample_eq_nil_iff :
    (sample host count s).1 = [] ↔ s.client.nodes = [] ∨ count = 0 := by
  rw [← List.length_eq_zero_iff, (sampled_sample host count s).length, Nat.min_eq_zero_iff,
    List.length_eq_zero_iff, or_comm]

end Run

end HbarKit
