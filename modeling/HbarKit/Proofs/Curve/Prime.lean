import HbarKit.Curve.Edwards
import HbarKit.Curve.Secp256k1
import HbarKit.Proofs.Curve.Arithmetic
import Mathlib.NumberTheory.LucasPrimality

/-!
# The fields and the orders of the curves

A number is prime if some base takes as many steps to come back to one as there are smaller numbers
above zero. To tell that, the prime factors of the number less one have to be known, and that they
are prime is shown in the same way until they are small.
-/
namespace HbarKit.Modular

/-- The powers of a base come back to one with the exponent `n - 1`, of which these are the factors,
and not before. -/
def HasFullOrder (n base : Nat) (factors : List Nat) : Prop :=
  1 < n ∧ n ≤ Nat.pow 2 256 ∧ factors.prod + 1 = n ∧ power n 256 base (n - 1) = 1 ∧
    ∀ q ∈ factors, power n 256 base ((n - 1) / q) ≠ 1

instance (n base : Nat) (factors : List Nat) : Decidable (HasFullOrder n base factors) :=
  inferInstanceAs (Decidable (_ ∧ _ ∧ _ ∧ _ ∧ _))

theorem prime_of_hasFullOrder {n : Nat} (base : Nat) (factors : List Nat)
    (h : HasFullOrder n base factors) (hprime : ∀ q ∈ factors, q.Prime) : n.Prime := by
  obtain ⟨hn, hbits, hprod, hone, hne⟩ := h
  have hpower : ∀ e ≤ n - 1, ((base : ZMod n) ^ e = 1 ↔ power n 256 base e = 1) := by
    intro e he
    have hlt : e < Nat.pow 2 256 := by omega
    rw [power_eq hlt, ← Nat.cast_pow, ← Nat.cast_one, ZMod.natCast_eq_natCast_iff',
      Nat.mod_eq_of_lt hn]
    rfl
  apply lucas_primality n (base : ZMod n)
  · exact (hpower _ le_rfl).mpr hone
  · intro q hq hdvd hpow
    have hmem : q ∈ factors := by
      rw [← hprod, Nat.add_sub_cancel] at hdvd
      obtain ⟨r, hr, hqr⟩ := (Prime.dvd_prod_iff hq.prime).mp hdvd
      rwa [(Nat.prime_dvd_prime_iff_eq hq (hprime r hr)).mp hqr]
    exact hne q hmem ((hpower _ (Nat.div_le_self _ _)).mp hpow)

end HbarKit.Modular

namespace HbarKit.Secp256k1

open HbarKit.Modular

theorem prime_fieldOrder : fieldOrder.Prime := by
  -- Factors of more than nine digits are shown to be prime before they are used.
  have h57 : Nat.Prime 173378833005251801 :=
    prime_of_hasFullOrder 6 [2, 2, 2, 5, 5, 2621, 24809, 13331831] (by decide +kernel) (by norm_num)
  have h74 : Nat.Prime 22149492674086928081353 := by
    apply prime_of_hasFullOrder 5 [173378833005251801, 2, 2, 2, 3, 5323] (by decide +kernel)
    refine List.forall_mem_cons.mpr ⟨h57, ?_⟩
    norm_num
  have h77 : Nat.Prime 132896956044521568488119 := by
    apply prime_of_hasFullOrder 6 [22149492674086928081353, 2, 3] (by decide +kernel)
    refine List.forall_mem_cons.mpr ⟨h74, ?_⟩
    norm_num
  have h128 : Nat.Prime 255515944373312847190720520512484175977 :=
    prime_of_hasFullOrder 3
      [2, 2, 2, 7, 7, 11, 1627, 2657, 4423, 41201, 96557, 7240687, 107590001]
      (by decide +kernel) (by norm_num)
  have h237 : Nat.Prime
      205115282021455665897114700593932402728804164701536103180137503955397371 := by
    apply prime_of_hasFullOrder 10 [132896956044521568488119,
      255515944373312847190720520512484175977, 2, 3, 5, 29, 29, 31, 7723] (by decide +kernel)
    refine List.forall_mem_cons.mpr ⟨h77, List.forall_mem_cons.mpr ⟨h128, ?_⟩⟩
    norm_num
  apply prime_of_hasFullOrder 3
    [205115282021455665897114700593932402728804164701536103180137503955397371, 2, 3, 7, 13441]
    (by decide +kernel)
  refine List.forall_mem_cons.mpr ⟨h237, ?_⟩
  norm_num

end HbarKit.Secp256k1

namespace HbarKit.Edwards

open HbarKit.Modular

theorem prime_fieldOrder : fieldOrder.Prime := by
  have h55 : Nat.Prime 31757755568855353 :=
    prime_of_hasFullOrder 10 [2, 2, 2, 3, 31, 107, 223, 4153, 430751] (by decide +kernel)
      (by norm_num)
  have h32 : Nat.Prime 2773320623 :=
    prime_of_hasFullOrder 5 [2, 2437, 569003] (by decide +kernel) (by norm_num)
  have h37 : Nat.Prime 72106336199 := by
    apply prime_of_hasFullOrder 7 [2773320623, 2, 13] (by decide +kernel)
    refine List.forall_mem_cons.mpr ⟨h32, ?_⟩
    norm_num
  have h51 : Nat.Prime 1919519569386763 :=
    prime_of_hasFullOrder 2 [2, 3, 7, 19, 47, 47, 127, 8574133] (by decide +kernel) (by norm_num)
  have h116 : Nat.Prime 75445702479781427272750846543864801 := by
    apply prime_of_hasFullOrder 7
      [72106336199, 1919519569386763, 2, 2, 2, 2, 2, 3, 3, 5, 5, 75707] (by decide +kernel)
    refine List.forall_mem_cons.mpr ⟨h37, List.forall_mem_cons.mpr ⟨h51, ?_⟩⟩
    norm_num
  have h236 : Nat.Prime
      74058212732561358302231226437062788676166966415465897661863160754340907 := by
    apply prime_of_hasFullOrder 2 [31757755568855353, 75445702479781427272750846543864801, 2, 3,
      353, 57467, 132049, 1923133] (by decide +kernel)
    refine List.forall_mem_cons.mpr ⟨h55, List.forall_mem_cons.mpr ⟨h116, ?_⟩⟩
    norm_num
  apply prime_of_hasFullOrder 2
    [74058212732561358302231226437062788676166966415465897661863160754340907, 2, 2, 3, 65147]
    (by decide +kernel)
  refine List.forall_mem_cons.mpr ⟨h236, ?_⟩
  norm_num

end HbarKit.Edwards
