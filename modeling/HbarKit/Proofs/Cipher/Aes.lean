import HbarKit.Proofs.Cipher.Field
import HbarKit.Proofs.Cipher.Mode

/-!
# Decryption undoes encryption

Each step of a round is undone by a step of the round back, and a block goes back through the rounds
in their opposite order. This is so whatever the round keys are.
-/
namespace HbarKit

/-- A block that is added twice is taken away again. -/
theorem Octets.xor_xor {n : Nat} (a b : Octets n) : (a.xor b).xor b = a := by
  apply Octets.ext
  exact Bytes.xor_xor a.bytes b.bytes (by rw [a.length_eq, b.length_eq])

theorem Octets.xor_comm {n : Nat} (a b : Octets n) : a.xor b = b.xor a := by
  apply Octets.ext
  exact List.zipWith_comm_of_comm fun x y => UInt8.xor_comm x y

namespace Cipher

namespace Aes

/-! ## Rows and columns -/

variable {c r : Nat}

theorem entry_build (f : Nat → Nat → UInt8) (hc : c < 4) (hr : r < 4) :
    entry (build f) c r = f c r := by
  have hplace : 4 * c + r < 16 := by omega
  have hcolumn : (4 * c + r) / 4 = c := by omega
  have hrow : (4 * c + r) % 4 = r := by omega
  simp [entry, build, hplace, hcolumn, hrow]

/-- Blocks with the same entries are the same. -/
theorem ext_entry {a b : Octets 16} (h : ∀ c < 4, ∀ r < 4, entry a c r = entry b c r) : a = b := by
  apply Octets.ext
  apply List.ext_getElem
  · rw [a.length_eq, b.length_eq]
  · intro i ha hb
    have hi : i < 16 := by rwa [a.length_eq] at ha
    have hentry := h (i / 4) (by omega) (i % 4) (by omega)
    simpa [entry, Nat.div_add_mod, ha, hb] using hentry

/-! ## Steps of a round -/

theorem mapBytes_backward_forward (b : Octets 16) :
    mapBytes backward (mapBytes forward b) = b := by
  apply Octets.ext
  simp only [mapBytes, List.map_map]
  exact (List.map_congr_left fun a _ => backward_forward a).trans (List.map_id _)

theorem unshiftRows_shiftRows (b : Octets 16) : unshiftRows (shiftRows b) = b := by
  apply ext_entry
  intro c hc r hr
  have hback : ((c + 4 - r) % 4 + r) % 4 = c := by omega
  rw [unshiftRows, shiftRows, entry_build _ hc hr, entry_build _ (Nat.mod_lt _ (by decide)) hr,
    hback]

/-! ## Mixed columns -/

/-- A coefficient of the circulant matrix with a first row. -/
def coefficient (row : List UInt8) (r k : Nat) : UInt8 := row.getD ((4 + k - r) % 4) 0

theorem entry_mixWith (row : List UInt8) (b : Octets 16) (hc : c < 4) (hr : r < 4) :
    entry (mixWith row b) c r =
      multiply (coefficient row r 0) (entry b c 0) ^^^
        multiply (coefficient row r 1) (entry b c 1) ^^^
        multiply (coefficient row r 2) (entry b c 2) ^^^
        multiply (coefficient row r 3) (entry b c 3) :=
  entry_build _ hc hr

/-- What an entry in row `k` adds to row `r` on its way through row `j` of the mixed column. -/
def share (r j k : Nat) (a : UInt8) : UInt8 :=
  multiply (coefficient [14, 11, 13, 9] r j) (multiply (coefficient [2, 3, 1, 1] j k) a)

/-- An entry comes back to its own row and to no other. Its shares are sums of doubled bytes, which
come an even number of times except the one that is left. -/
theorem xor_shares {k : Nat} (hr : r < 4) (hk : k < 4) (a : UInt8) :
    share r 0 k a ^^^ share r 1 k a ^^^ share r 2 k a ^^^ share r 3 k a =
      if r = k then a else 0 := by
  interval_cases r <;> interval_cases k <;>
    simp [share, coefficient, multiply_one, multiply_two, multiply_three, multiply_nine,
      multiply_eleven, multiply_thirteen, multiply_fourteen, double_xor, UInt8.xor_assoc,
      UInt8.xor_comm, Bytes.xor_left_comm]

/-- The sum of the rows of a square is that of its columns. -/
theorem xor_transpose (f : Nat → Nat → UInt8) :
    (f 0 0 ^^^ f 0 1 ^^^ f 0 2 ^^^ f 0 3) ^^^ (f 1 0 ^^^ f 1 1 ^^^ f 1 2 ^^^ f 1 3) ^^^
        (f 2 0 ^^^ f 2 1 ^^^ f 2 2 ^^^ f 2 3) ^^^ (f 3 0 ^^^ f 3 1 ^^^ f 3 2 ^^^ f 3 3) =
      (f 0 0 ^^^ f 1 0 ^^^ f 2 0 ^^^ f 3 0) ^^^ (f 0 1 ^^^ f 1 1 ^^^ f 2 1 ^^^ f 3 1) ^^^
        (f 0 2 ^^^ f 1 2 ^^^ f 2 2 ^^^ f 3 2) ^^^ (f 0 3 ^^^ f 1 3 ^^^ f 2 3 ^^^ f 3 3) := by
  ac_rfl

theorem unmixColumns_mixColumns (b : Octets 16) : unmixColumns (mixColumns b) = b := by
  apply ext_entry
  intro c hc r hr
  have hzero : 0 < 4 := by decide
  have hone : 1 < 4 := by decide
  have htwo : 2 < 4 := by decide
  have hthree : 3 < 4 := by decide
  rw [unmixColumns, mixColumns, entry_mixWith _ _ hc hr, entry_mixWith _ _ hc hzero,
    entry_mixWith _ _ hc hone, entry_mixWith _ _ hc htwo, entry_mixWith _ _ hc hthree]
  simp only [multiply_xor]
  refine (xor_transpose fun j k => share r j k (entry b c k)).trans ?_
  rw [xor_shares hr hzero, xor_shares hr hone, xor_shares hr htwo, xor_shares hr hthree]
  interval_cases r <;> simp

/-! ## Rounds -/

theorem unround_round (b key : Octets 16) : unround (round b key) key = b := by
  rw [unround, round, Octets.xor_xor, unmixColumns_mixColumns, unshiftRows_shiftRows,
    mapBytes_backward_forward]

/-- The rounds are undone one by one, the last one first. -/
theorem foldr_unround_foldl_round (keys : List (Octets 16)) (b : Octets 16) :
    keys.foldr (fun key b => unround b key) (keys.foldl round b) = b := by
  induction keys generalizing b with
  | nil => rfl
  | cons key keys ih => rw [List.foldl_cons, List.foldr_cons, ih, unround_round]

theorem decrypt_encrypt (first : Octets 16) (middle : List (Octets 16)) (last b : Octets 16) :
    decrypt first middle last (encrypt first middle last b) = b := by
  rw [decrypt, encrypt, Octets.xor_xor, unshiftRows_shiftRows, mapBytes_backward_forward,
    foldr_unround_foldl_round, Octets.xor_xor]

end Aes

/-- Blocks that are encrypted are decrypted with the same key. -/
theorem aes_decrypt_encrypt (key : Bytes) (b : Octets 16) :
    (aes key).decrypt ((aes key).encrypt b) = b := by
  unfold aes
  split
  · rfl
  · exact Aes.decrypt_encrypt _ _ _ b

theorem aes_encrypt_injective (key : Bytes) : Function.Injective (aes key).encrypt :=
  Function.LeftInverse.injective (aes_decrypt_encrypt key)

end Cipher

end HbarKit
