import HbarKit.Bytes
import Mathlib.Data.Nat.Bitwise
import Mathlib.Data.String.Basic
import Mathlib.Tactic

/-!
# Reading bytes back

A number of fixed width is read back modulo its width, and a text from its UTF-8 bytes.
-/
namespace HbarKit.Bytes

/-- What holds of the bytes of all numbers holds of all bytes. -/
theorem forall_byte {p : UInt8 → Prop} (h : ∀ n < 256, p (UInt8.ofNat n)) (a : UInt8) : p a := by
  have ha := h a.toNat a.toNat_lt
  rwa [UInt8.ofNat_toNat] at ha

/-- The lowest bit of a byte is what is left of it by two. -/
theorem toNat_low (a : UInt8) : (a &&& 1).toNat = a.toNat % 2 :=
  (UInt8.toNat_and a 1).trans (Nat.and_one_is_mod _)

/-- Each bit of a byte is clear or set. -/
theorem bit_eq (a : UInt8) {i : Nat} (h : i < 8) :
    a &&& UInt8.ofNat (2 ^ i) = 0 ∨ a &&& UInt8.ofNat (2 ^ i) = UInt8.ofNat (2 ^ i) := by
  have hlt : 2 ^ i < 2 ^ 8 := Nat.pow_lt_pow_right (by decide) h
  have hpower : (UInt8.ofNat (2 ^ i)).toNat = 2 ^ i := Nat.mod_eq_of_lt hlt
  have hbit : (a &&& UInt8.ofNat (2 ^ i)).toNat = (a.toNat.testBit i).toNat * 2 ^ i := by
    rw [UInt8.toNat_and, hpower, Nat.and_two_pow]
  cases hset : a.toNat.testBit i with
  | false =>
    rw [hset, Bool.toNat_false, zero_mul] at hbit
    exact .inl (UInt8.toNat_inj.mp hbit)
  | true =>
    rw [hset, Bool.toNat_true, one_mul] at hbit
    exact .inr (UInt8.toNat_inj.mp (hbit.trans hpower.symm))

theorem xor_left_comm (a b c : UInt8) : a ^^^ (b ^^^ c) = b ^^^ (a ^^^ c) := by
  rw [← UInt8.xor_assoc, UInt8.xor_comm a b, UInt8.xor_assoc]

theorem xor_and (a b mask : UInt8) : (a ^^^ b) &&& mask = (a &&& mask) ^^^ (b &&& mask) :=
  UInt8.toNat_inj.mp (Nat.and_xor_distrib_right ..)

/-- A power of two is added to a smaller number without a carry. -/
theorem two_pow_xor {k m : Nat} (h : m < 2 ^ k) : 2 ^ k ^^^ m = 2 ^ k + m := by
  have hor := Nat.two_pow_add_eq_or_of_lt h 1
  rw [mul_one] at hor
  rw [hor]
  apply Nat.eq_of_testBit_eq
  intro i
  rw [Nat.testBit_xor, Nat.testBit_or, Nat.testBit_two_pow]
  by_cases hi : k = i
  · rw [← hi, Nat.testBit_lt_two_pow h, Bool.xor_false, Bool.or_false]
  · rw [decide_eq_false hi, Bool.false_xor, Bool.false_or]

/-- What holds of single bits and of sums holds of all bytes. -/
theorem forall_of_bits {p : UInt8 → Prop} (hxor : ∀ a b, p a → p b → p (a ^^^ b))
    (hbit : ∀ i < 8, p (UInt8.ofNat (2 ^ i))) (a : UInt8) : p a := by
  have hbelow : ∀ k ≤ 8, ∀ n < 2 ^ k, p (UInt8.ofNat n) := by
    intro k
    induction k with
    | zero =>
      intro _ n hn
      obtain rfl : n = 0 := by omega
      have hzero := hxor _ _ (hbit 0 (by decide)) (hbit 0 (by decide))
      rwa [UInt8.xor_self] at hzero
    | succ k ih =>
      intro hk n hn
      by_cases hlow : n < 2 ^ k
      · exact ih (by omega) n hlow
      · have hrest : n - 2 ^ k < 2 ^ k := by omega
        have hsum : n = 2 ^ k ^^^ (n - 2 ^ k) := by
          rw [two_pow_xor hrest]
          omega
        rw [hsum, UInt8.ofNat_xor]
        exact hxor _ _ (hbit k (by omega)) (ih (by omega) _ hrest)
  have h := hbelow 8 le_rfl a.toNat a.toNat_lt
  rwa [UInt8.ofNat_toNat] at h

theorem toNatLE_ofNatLE (width n : Nat) : toNatLE (ofNatLE width n) = n % 256 ^ width := by
  induction width generalizing n with
  | zero => simp [ofNatLE, toNatLE, Nat.mod_one]
  | succ width ih =>
    rw [ofNatLE, toNatLE, ih, pow_succ, Nat.mul_comm (256 ^ width), Nat.mod_mul]
    simp

theorem toNatBE_eq (b : Bytes) : toNatBE b = toNatLE b.reverse := by
  induction b using List.reverseRecOn with
  | nil => rfl
  | append_singleton b x ih =>
    rw [toNatBE] at ih ⊢
    rw [List.foldl_append, ih, List.reverse_append]
    simp only [List.foldl_cons, List.foldl_nil, List.reverse_singleton, List.singleton_append,
      toNatLE]
    omega

theorem toNatBE_ofNatBE (width n : Nat) : toNatBE (ofNatBE width n) = n % 256 ^ width := by
  rw [toNatBE_eq, ofNatBE, List.reverse_reverse, toNatLE_ofNatLE]

theorem ofNatLE_toNatLE (b : Bytes) : ofNatLE b.length (toNatLE b) = b := by
  induction b with
  | nil => rfl
  | cons x b ih =>
    have hx : x.toNat < 256 := x.toNat_lt
    have hbyte : UInt8.ofNat (x.toNat + 256 * toNatLE b) = x := by
      rw [← UInt8.toNat_inj, UInt8.toNat_ofNat']
      omega
    have hrest : (x.toNat + 256 * toNatLE b) / 256 = toNatLE b := by omega
    rw [List.length_cons, toNatLE, ofNatLE, hbyte, hrest, ih]

/-- Bytes are those of their number. -/
theorem ofNatBE_toNatBE (b : Bytes) : ofNatBE b.length (toNatBE b) = b := by
  have hread := ofNatLE_toNatLE b.reverse
  rw [List.length_reverse] at hread
  rw [toNatBE_eq, ofNatBE, hread, List.reverse_reverse]

theorem toNatBE_lt (b : Bytes) : toNatBE b < 256 ^ b.length := by
  have hread := toNatBE_ofNatBE b.length (toNatBE b)
  rw [ofNatBE_toNatBE] at hread
  rw [hread]
  exact Nat.mod_lt _ (by positivity)

@[simp] theorem toString?_ofString (s : String) : toString? (ofString s) = some s := by
  have hvalid : ByteArray.IsValidUTF8 s.toByteArray := s.isValidUTF8
  simp only [toString?, ofString, String.toUTF8_eq_toByteArray, Array.toArray_toList]
  exact dif_pos hvalid

/-- A character takes at most four bytes. -/
theorem length_ofString_le (s : String) : (ofString s).length ≤ 4 * s.toList.length := by
  have hlength : (ofString s).length = String.utf8Len s.toList := (String.utf8Len_toList s).symm
  rw [hlength]
  induction s.toList with
  | nil => simp
  | cons c cs ih =>
    have hc := c.utf8Size_le_four
    simp only [String.utf8Len_cons, List.length_cons]
    omega

end HbarKit.Bytes

namespace HbarKit.Octets

@[simp] theorem ofBytes?_bytes {n : Nat} (a : Octets n) : ofBytes? n a.bytes = some a := by
  rw [ofBytes?, dif_pos a.length_eq]

end HbarKit.Octets
