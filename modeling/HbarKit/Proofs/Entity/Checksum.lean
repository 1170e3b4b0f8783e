import HbarKit.Entity.Checksum
import Mathlib.Tactic

/-!
# What a checksum keeps

The parts that a checksum is made of are packed below 26⁵, and what follows is a shift and a product
with a unit modulo 26⁵ and five letters for the result. So two checksums on one ledger are equal
only if all their parts are.
-/
namespace HbarKit.Checksum

/-! ## Letters -/

theorem toNat_letter {n : Nat} (h : n < 26) : (Char.ofNat (97 + n)).toNat = 97 + n := by
  revert n; decide

/-- Letters keep a number that they have room for. -/
theorem eq_of_letters_eq {width m n : Nat} (hm : m < 26 ^ width) (hn : n < 26 ^ width)
    (h : letters width m = letters width n) : m = n := by
  induction width generalizing m n with
  | zero =>
    rw [pow_zero] at hm hn
    omega
  | succ width ih =>
    rw [pow_succ] at hm hn
    obtain ⟨hfront, hlast⟩ := List.append_inj' h rfl
    have hquotient : m / 26 = n / 26 := ih (by omega) (by omega) hfront
    have hletter := congrArg Char.toNat (List.singleton_inj.mp hlast)
    rw [toNat_letter (Nat.mod_lt m (by decide)), toNat_letter (Nat.mod_lt n (by decide))] at hletter
    omega

/-! ## Parts -/

theorem evenSum_cons (d : Nat) (ds : List Nat) : evenSum (d :: ds) = d + oddSum ds := by
  cases ds with
  | nil => rfl
  | cons e ds => rfl

theorem oddSum_cons (d : Nat) (ds : List Nat) : oddSum (d :: ds) = evenSum ds := rfl

theorem weightedSum_lt (ds : List Nat) : weightedSum ds < 17576 := by
  cases ds using List.reverseRecOn with
  | nil => decide
  | append_singleton ds d =>
    rw [weightedSum, List.foldl_append]
    exact Nat.mod_lt _ (by decide)

theorem saltSum_lt (l : Ledger) : saltSum l < 11881376 := by
  cases l <;> decide

theorem code_lt (l : Ledger) (ds : List Nat) : code l ds < 26 ^ 5 := Nat.mod_lt _ (by decide)

/-- The shift by a salt and the product with a unit lose nothing. -/
theorem eq_of_scrambled_eq {m n salt : Nat} (hm : m < 11881376) (hn : n < 11881376)
    (h : (m + salt) % 11881376 * 1000003 % 11881376 = (n + salt) % 11881376 * 1000003 % 11881376) :
    m = n := by
  have hunit : Nat.gcd 11881376 1000003 = 1 := by decide
  have hshifted : (m + salt) % 11881376 ≡ (n + salt) % 11881376 [MOD 11881376] :=
    Nat.ModEq.cancel_right_of_coprime hunit h
  have hsum : m + salt ≡ n + salt [MOD 11881376] :=
    ((Nat.mod_modEq _ _).symm.trans hshifted).trans (Nat.mod_modEq _ _)
  exact Nat.ModEq.eq_of_lt_of_lt (Nat.ModEq.add_right_cancel' salt hsum) hm hn

/-- Whether the digits at even places have the same sum modulo 11, and those at odd places too. -/
def SumsAgree (ds es : List Nat) : Prop :=
  evenSum ds ≡ evenSum es [MOD 11] ∧ oddSum ds ≡ oddSum es [MOD 11]

/-- Equal codes come from digits with equal lengths modulo 5, equal sums and equal weighted sums. -/
theorem code_eq_iff (l : Ledger) (ds es : List Nat) :
    code l ds = code l es ↔
      ds.length % 5 = es.length % 5 ∧ SumsAgree ds es ∧ weightedSum ds = weightedSum es := by
  have hds := weightedSum_lt ds
  have hes := weightedSum_lt es
  unfold SumsAgree Nat.ModEq
  constructor
  · intro h
    have hpacked := eq_of_scrambled_eq (by omega) (by omega) h
    omega
  · rintro ⟨hlength, ⟨heven, hodd⟩, hweighted⟩
    simp only [code, hlength, heven, hodd, hweighted]

/-- Equal checksums come from equal codes. -/
theorem compute_eq_iff (l : Ledger) (shard realm num shard' realm' num' : Nat) :
    compute l shard realm num = compute l shard' realm' num' ↔
      code l ((addressChars shard realm num).map digitValue) =
        code l ((addressChars shard' realm' num').map digitValue) := by
  constructor
  · intro h
    exact eq_of_letters_eq (code_lt l _) (code_lt l _) (String.ofList_injective h)
  · intro h
    rw [compute, compute, h]

end HbarKit.Checksum
