import HbarKit.Proofs.Cipher.Aes

/-!
# Undoing chaining mode

Whole blocks are split and joined without loss, the filling tells how much of it there is, and every
block is decrypted with the encrypted one before it, which is at hand on both sides.
-/
namespace HbarKit

/-! ## Blocks in a row -/

namespace Octets

variable {n : Nat}

theorem length_join (blocks : List (Octets n)) : (join blocks).length = n * blocks.length := by
  induction blocks with
  | nil => simp [join]
  | cons b blocks ih =>
    rw [join, List.flatMap_cons, List.length_append, ← join, ih, b.length_eq, List.length_cons]
    ring

theorem join_pieces (count : Nat) (b : Bytes) (h : n * count ≤ b.length) :
    join (pieces n count b h) = b.take (n * count) := by
  induction count generalizing b with
  | zero => simp [pieces, join]
  | succ count ih =>
    rw [pieces, join, List.flatMap_cons, ← join, ih, take, Nat.mul_succ, Nat.add_comm,
      List.take_add]

/-- A string of whole blocks is the blocks it is split into. -/
theorem join_split {b : Bytes} (h : n ∣ b.length) : join (split n b) = b := by
  rw [split, join_pieces, Nat.mul_div_cancel' h, List.take_length]

theorem pieces_join (blocks : List (Octets n)) (h : n * blocks.length ≤ (join blocks).length) :
    pieces n blocks.length (join blocks) h = blocks := by
  induction blocks with
  | nil => rfl
  | cons b blocks ih =>
    have hjoin : join (b :: blocks) = b.bytes ++ join blocks := List.flatMap_cons
    have hlong : n ≤ (join (b :: blocks)).length := by simp [hjoin, b.length_eq]
    have hfirst : take n (join (b :: blocks)) hlong = b := by
      rw [take, mk_eq_iff, hjoin, List.take_left' b.length_eq]
    have hrest : (join (b :: blocks)).drop n = join blocks := by
      rw [hjoin, List.drop_left' b.length_eq]
    simp only [List.length_cons, pieces, hfirst, hrest, ih]

/-- Blocks in a row are split into these blocks. -/
theorem split_join (hn : 0 < n) (blocks : List (Octets n)) : split n (join blocks) = blocks := by
  have hcount : (join blocks).length / n = blocks.length := by
    rw [length_join, Nat.mul_div_cancel_left _ hn]
  simp only [split, hcount, pieces_join]

end Octets

namespace Cipher

/-! ## Filling -/

theorem length_fill (m : Bytes) : (fill m).length = m.length + (16 - m.length % 16) := by
  rw [fill, List.length_append, List.length_replicate]

theorem dvd_length_fill (m : Bytes) : 16 ∣ (fill m).length := by
  rw [length_fill]
  omega

/-- The last byte is in the filling and tells how long that is. -/
theorem unfill?_fill (m : Bytes) : unfill? (fill m) = some m := by
  obtain ⟨count, hcount⟩ : ∃ count, 16 - m.length % 16 = count + 1 :=
    ⟨15 - m.length % 16, by omega⟩
  have hlt : count + 1 < 256 := by omega
  have hbyte : (UInt8.ofNat (count + 1)).toNat = count + 1 := UInt8.toNat_ofNat_of_lt' hlt
  have hlast : (m ++ List.replicate (count + 1) (UInt8.ofNat (count + 1))).getLastD 0 =
      UInt8.ofNat (count + 1) := by
    rw [List.replicate_succ', ← List.append_assoc, List.getLastD_concat]
  have hfront : (m ++ List.replicate (count + 1) (UInt8.ofNat (count + 1))).length - (count + 1) =
      m.length := by
    rw [List.length_append, List.length_replicate, Nat.add_sub_cancel]
  simp only [unfill?, fill, hcount, hlast, hbyte, hfront, List.drop_left, List.take_left]
  exact if_pos ⟨by omega, by omega, by simp, trivial⟩

/-! ## Chains of blocks -/

variable {c : BlockCipher}

theorem unchain_chain (hc : ∀ b, c.decrypt (c.encrypt b) = b) (before : Octets 16)
    (blocks : List (Octets 16)) : unchain c before (chain c before blocks) = blocks := by
  induction blocks generalizing before with
  | nil => rfl
  | cons b blocks ih =>
    rw [chain, unchain, ih, hc, Octets.xor_comm before, Octets.xor_comm before, Octets.xor_xor]

@[simp] theorem length_chain (c : BlockCipher) (before : Octets 16) (blocks : List (Octets 16)) :
    (chain c before blocks).length = blocks.length := by
  induction blocks generalizing before with
  | nil => rfl
  | cons b blocks ih => simp [chain, ih]

/-- Encryption makes a message longer by its filling. -/
theorem length_encryptChained (c : BlockCipher) (start : Octets 16) (m : Bytes) :
    (encryptChained c start m).length = (fill m).length := by
  rw [encryptChained, Octets.length_join, length_chain, ← Octets.length_join,
    Octets.join_split (dvd_length_fill m)]

/-- What is encrypted in chaining mode is decrypted with the same start value. -/
theorem decryptChained?_encryptChained (hc : ∀ b, c.decrypt (c.encrypt b) = b) (start : Octets 16)
    (m : Bytes) : decryptChained? c start (encryptChained c start m) = some m := by
  have hwhole : (encryptChained c start m).length % 16 = 0 := by
    rw [length_encryptChained]
    exact Nat.mod_eq_zero_of_dvd (dvd_length_fill m)
  rw [decryptChained?, if_pos hwhole, encryptChained, Octets.split_join (by decide),
    unchain_chain hc, Octets.join_split (dvd_length_fill m), unfill?_fill]

end Cipher

end HbarKit
