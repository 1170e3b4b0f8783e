import HbarKit.Cipher.Aes
import HbarKit.Proofs.Bytes.Numbers
import Mathlib

/-!
# The field of bytes

Doubling and multiplication distribute over the sum of bytes, and the products with the constants
that columns are mixed with are sums of doubled bytes. A byte is found again from what replaces it,
since it is the inverse of its inverse.
-/
namespace HbarKit.Cipher.Aes

open Bytes (bit_eq forall_byte toNat_low xor_and xor_left_comm)

/-! ## Sums -/

/-- The highest bit of a byte is set or clear. -/
theorem high_eq (a : UInt8) : a &&& 0x80 = 0 ∨ a &&& 0x80 = 0x80 :=
  bit_eq a (i := 7) (by decide)

theorem double_xor (a b : UInt8) : double (a ^^^ b) = double a ^^^ double b := by
  rw [double, double, double, UInt8.shiftLeft_xor, xor_and]
  obtain ha | ha := high_eq a <;> obtain hb | hb := high_eq b
  · simp [ha, hb]
  · simp [ha, hb, UInt8.xor_assoc]
  · simp [ha, hb, UInt8.xor_assoc, UInt8.xor_comm (b <<< 1)]
  · have hcancel (x y : UInt8) : x ^^^ 0x1b ^^^ (y ^^^ 0x1b) = x ^^^ y := by
      rw [UInt8.xor_assoc, xor_left_comm 0x1b, UInt8.xor_self, UInt8.xor_zero]
    simp [ha, hb, hcancel]

theorem multiplyBits_xor (bits : Nat) (k a b : UInt8) :
    multiplyBits bits k (a ^^^ b) = multiplyBits bits k a ^^^ multiplyBits bits k b := by
  induction bits generalizing k a b with
  | zero => simp [multiplyBits]
  | succ bits ih =>
    rw [multiplyBits, multiplyBits, multiplyBits, double_xor, ih]
    split
    · simp
    · rw [UInt8.xor_assoc, UInt8.xor_assoc, xor_left_comm b]

theorem multiply_xor (k a b : UInt8) : multiply k (a ^^^ b) = multiply k a ^^^ multiply k b :=
  multiplyBits_xor 8 k a b

/-! ## Products with constants -/

theorem multiply_one (a : UInt8) : multiply 1 a = a := by
  simp +decide [multiply, multiplyBits]

theorem multiply_two (a : UInt8) : multiply 2 a = double a := by
  simp +decide [multiply, multiplyBits]

theorem multiply_three (a : UInt8) : multiply 3 a = a ^^^ double a := by
  simp +decide [multiply, multiplyBits]

theorem multiply_nine (a : UInt8) : multiply 9 a = a ^^^ double (double (double a)) := by
  simp +decide [multiply, multiplyBits]

theorem multiply_eleven (a : UInt8) :
    multiply 11 a = a ^^^ (double a ^^^ double (double (double a))) := by
  simp +decide [multiply, multiplyBits]

theorem multiply_thirteen (a : UInt8) :
    multiply 13 a = a ^^^ (double (double a) ^^^ double (double (double a))) := by
  simp +decide [multiply, multiplyBits]

theorem multiply_fourteen (a : UInt8) :
    multiply 14 a = double a ^^^ (double (double a) ^^^ double (double (double a))) := by
  simp +decide [multiply, multiplyBits]

/-! ## Inverses -/

/-- Doubling as it acts on numbers, which are computed with faster than bytes. -/
def doubleNat (n : Nat) : Nat := 2 * n ^^^ n / 0x80 * 0x11b

/-- Multiplication as it acts on numbers. -/
def multiplyNat : (bits a b : Nat) → Nat
  | 0, _, _ => 0
  | bits + 1, a, b => a % 2 * b ^^^ multiplyNat bits (a / 2) (doubleNat b)

theorem toNat_double (a : UInt8) : (double a).toNat = doubleNat a.toNat :=
  forall_byte (p := fun a => (double a).toNat = doubleNat a.toNat) (by decide +kernel) a

theorem toNat_halve (a : UInt8) :
    (a >>> 1).toNat = a.toNat / 2 ∧ (a &&& 1 = 0 ↔ a.toNat % 2 = 0) := by
  rw [← toNat_low]
  exact ⟨UInt8.toNat_shiftRight a 1, UInt8.toNat_inj.symm⟩

theorem toNat_multiplyBits (bits : Nat) (a b : UInt8) :
    (multiplyBits bits a b).toNat = multiplyNat bits a.toNat b.toNat := by
  induction bits generalizing a b with
  | zero => rfl
  | succ bits ih =>
    obtain ⟨hhalf, hlow⟩ := toNat_halve a
    rw [multiplyBits, multiplyNat, UInt8.toNat_xor, ih, hhalf, toNat_double]
    obtain hbit | hbit := Nat.mod_two_eq_zero_or_one a.toNat
    · simp [hlow, hbit]
    · simp [hlow, hbit]

/-- The exponent 254 as it acts on numbers. -/
def inverseNat (a : Nat) : Nat :=
  let a2 := multiplyNat 8 a a
  let a4 := multiplyNat 8 a2 a2
  let a8 := multiplyNat 8 a4 a4
  let a16 := multiplyNat 8 a8 a8
  let a32 := multiplyNat 8 a16 a16
  let a64 := multiplyNat 8 a32 a32
  let a128 := multiplyNat 8 a64 a64
  multiplyNat 8 a2 (multiplyNat 8 a4 (multiplyNat 8 a8 (multiplyNat 8 a16
    (multiplyNat 8 a32 (multiplyNat 8 a64 a128)))))

theorem toNat_inverse (a : UInt8) : (inverse a).toNat = inverseNat a.toNat := by
  simp only [inverse, inverseNat, multiply, toNat_multiplyBits]

theorem inverseNat_inverseNat : ∀ n < 256, inverseNat (inverseNat n) = n := by
  decide +kernel

theorem inverse_inverse (a : UInt8) : inverse (inverse a) = a := by
  apply UInt8.toNat_inj.mp
  rw [toNat_inverse, toNat_inverse]
  exact inverseNat_inverseNat a.toNat a.toNat_lt

/-! ## Replaced bytes -/

/-- The second half of the replacement of a byte, after its inverse is taken. -/
def affine (b : UInt8) : UInt8 :=
  b ^^^ rotate 1 b ^^^ rotate 2 b ^^^ rotate 3 b ^^^ rotate 4 b ^^^ 0x63

/-- The way back from the second half. -/
def unaffine (b : UInt8) : UInt8 := rotate 1 b ^^^ rotate 3 b ^^^ rotate 6 b ^^^ 0x05

theorem unaffine_affine (b : UInt8) : unaffine (affine b) = b :=
  forall_byte (p := fun b => unaffine (affine b) = b) (by decide +kernel) b

theorem substitute_injective : Function.Injective substitute := by
  intro a b h
  have hinverse : inverse a = inverse b := by
    have hback : unaffine (affine (inverse a)) = unaffine (affine (inverse b)) :=
      congrArg unaffine h
    rwa [unaffine_affine, unaffine_affine] at hback
  rw [← inverse_inverse a, hinverse, inverse_inverse]

theorem toList_substitutions :
    substitutions.toList = (List.range 256).map fun n => substitute (UInt8.ofNat n) := by
  simp [substitutions, Array.toList_range]

theorem forward_eq (a : UInt8) : forward a = substitute a := by
  have ha : a.toNat < 256 := a.toNat_lt
  simp [forward, substitutions, ha]

theorem idxOf_forward (a : UInt8) : substitutions.toList.idxOf (forward a) = a.toNat := by
  have hnodup : substitutions.toList.Nodup := by
    rw [toList_substitutions]
    apply List.nodup_range.map_on
    intro m hm n hn h
    have hbytes := congrArg UInt8.toNat (substitute_injective h)
    rw [List.mem_range] at hm hn
    rwa [UInt8.toNat_ofNat_of_lt' hm, UInt8.toNat_ofNat_of_lt' hn] at hbytes
  have hlength : substitutions.toList.length = 256 := by
    rw [toList_substitutions, List.length_map, List.length_range]
  have hlt : a.toNat < substitutions.toList.length := by
    rw [hlength]
    exact a.toNat_lt
  have hplace : substitutions.toList[a.toNat] = forward a := by
    simp [toList_substitutions, forward_eq]
  rw [← hplace, hnodup.idxOf_getElem]

/-- A byte is found again from what replaces it. -/
theorem backward_forward (a : UInt8) : backward (forward a) = a := by
  have hlt : (forward a).toNat < 256 := (forward a).toNat_lt
  have hlookup : backward (forward a) =
      UInt8.ofNat (substitutions.toList.idxOf (UInt8.ofNat (forward a).toNat)) := by
    simp [backward, replaced, hlt]
  rw [hlookup, UInt8.ofNat_toNat, idxOf_forward, UInt8.ofNat_toNat]

end HbarKit.Cipher.Aes
