import HbarKit.Cipher.Mode
import HbarKit.Hash.Hmac
import HbarKit.Proofs.Bytes.Numbers
import Mathlib.Tactic

/-!
# Undoing counter mode

The stream depends on the cipher, the start value and the length of the message alone, so adding it
to the encrypted message takes it away again. It begins with the encrypted start value, so another
start value does not take it away.
-/
namespace HbarKit

namespace Bytes

theorem length_xor (a b : Bytes) : (xor a b).length = min a.length b.length := by
  simp [xor]

/-- Bytes that are added twice are taken away again, if there are enough of them. -/
theorem xor_xor (a b : Bytes) (h : a.length ≤ b.length) : xor (xor a b) b = a := by
  induction a generalizing b with
  | nil => simp [xor]
  | cons x a ih =>
    cases b with
    | nil => simp at h
    | cons y b =>
      have hrest := ih b (by simpa using h)
      have hbyte : x ^^^ y ^^^ y = x := by rw [UInt8.xor_assoc, UInt8.xor_self, UInt8.xor_zero]
      simp only [xor, List.zipWith_cons_cons, hbyte] at hrest ⊢
      rw [hrest]

/-- What was added is known from the sum, as far as that goes. -/
theorem take_eq_of_xor_eq {m a b : Bytes} (ha : m.length ≤ a.length) (hb : m.length ≤ b.length)
    (h : xor m a = xor m b) : a.take m.length = b.take m.length := by
  induction m generalizing a b with
  | nil => rfl
  | cons z m ih =>
    cases a with
    | nil => cases ha
    | cons x a =>
      cases b with
      | nil => cases hb
      | cons y b =>
        simp only [xor, List.zipWith_cons_cons, List.cons.injEq, UInt8.xor_right_inj] at h
        have hrest := ih (Nat.le_of_succ_le_succ ha) (Nat.le_of_succ_le_succ hb) h.2
        rw [List.length_cons, List.take_succ_cons, List.take_succ_cons, h.1, hrest]

end Bytes

namespace Cipher

theorem length_stream (c : BlockCipher) (counter count : Nat) :
    (stream c counter count).length = 16 * count := by
  have hblocks := Hash.length_flatMap_of_forall
    (fun i => (c.encrypt (Octets.ofNatBE 16 (counter + i))).bytes) 16
    (fun i => (c.encrypt (Octets.ofNatBE 16 (counter + i))).length_eq) (List.range count)
  rw [stream, hblocks, List.length_range]
  omega

@[simp] theorem length_counterMode (c : BlockCipher) (start : Octets 16) (m : Bytes) :
    (counterMode c start m).length = m.length := by
  rw [counterMode, Bytes.length_xor, length_stream]
  omega

/-- What encrypts in counter mode also decrypts. -/
theorem counterMode_counterMode (c : BlockCipher) (start : Octets 16) (m : Bytes) :
    counterMode c start (counterMode c start m) = m := by
  have hlength := length_counterMode c start m
  have hstream := length_stream c (Bytes.toNatBE start.bytes) ((m.length + 15) / 16)
  rw [counterMode, hlength, counterMode]
  exact Bytes.xor_xor m _ (by omega)

/-- A stream that is not empty begins with the encrypted counter. -/
theorem take_stream (c : BlockCipher) (start : Octets 16) (count : Nat) :
    (stream c (Bytes.toNatBE start.bytes) (count + 1)).take 16 = (c.encrypt start).bytes := by
  have hstart : Octets.ofNatBE 16 (Bytes.toNatBE start.bytes) = start := by
    have hbytes := Bytes.ofNatBE_toNatBE start.bytes
    rw [start.length_eq] at hbytes
    exact Octets.ext hbytes
  rw [stream, List.range_succ_eq_map, List.flatMap_cons, Nat.add_zero, hstart,
    List.take_left' (c.encrypt start).length_eq]

/-- A message of a block or more is encrypted otherwise from another start value. -/
theorem counterMode_start_injective {c : BlockCipher} (hc : Function.Injective c.encrypt)
    {m : Bytes} (hm : 16 ≤ m.length) {start start' : Octets 16}
    (h : counterMode c start m = counterMode c start' m) : start = start' := by
  obtain ⟨count, hcount⟩ : ∃ count, (m.length + 15) / 16 = count + 1 :=
    ⟨(m.length + 15) / 16 - 1, by omega⟩
  rw [counterMode, counterMode, hcount] at h
  have hlength := length_stream c (Bytes.toNatBE start.bytes) (count + 1)
  have hlength' := length_stream c (Bytes.toNatBE start'.bytes) (count + 1)
  have hstreams := Bytes.take_eq_of_xor_eq (by omega) (by omega) h
  have hfirst := congrArg (List.take 16) hstreams
  rw [List.take_take, List.take_take, Nat.min_eq_left hm, take_stream, take_stream] at hfirst
  exact hc (Octets.ext hfirst)

/-- What was encrypted from a start value is decrypted to the message from no other one. -/
theorem counterMode_counterMode_eq_iff {c : BlockCipher} (hc : Function.Injective c.encrypt)
    {m : Bytes} (hm : 16 ≤ m.length) {start start' : Octets 16} :
    counterMode c start' (counterMode c start m) = m ↔ start' = start := by
  constructor
  · intro h
    have hback := congrArg (counterMode c start') h
    rw [counterMode_counterMode] at hback
    exact (counterMode_start_injective hc hm hback).symm
  · rintro rfl
    exact counterMode_counterMode c start' m

end Cipher

end HbarKit
