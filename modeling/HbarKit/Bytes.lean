/-!
# Byte strings

Everything that is hashed, signed, framed or stored is a list of bytes. A number of fixed width
has two written forms, most significant byte first or last, and reading either form back gives
the number modulo the width.
-/
namespace HbarKit

abbrev Bytes := List UInt8

namespace Bytes

/-- The `width` low bytes of `n`, least significant first. -/
def ofNatLE : (width n : Nat) → Bytes
  | 0, _ => []
  | width + 1, n => UInt8.ofNat n :: ofNatLE width (n / 256)

def ofNatBE (width n : Nat) : Bytes := (ofNatLE width n).reverse

def toNatLE : Bytes → Nat
  | [] => 0
  | b :: rest => b.toNat + 256 * toNatLE rest

def toNatBE (b : Bytes) : Nat := b.foldl (fun acc x => acc * 256 + x.toNat) 0

@[simp] theorem length_ofNatLE (width n : Nat) : (ofNatLE width n).length = width := by
  induction width generalizing n with
  | zero => rfl
  | succ width ih => simp [ofNatLE, ih]

@[simp] theorem length_ofNatBE (width n : Nat) : (ofNatBE width n).length = width := by
  simp [ofNatBE]

/-- Bytewise exclusive or, as long as the shorter of the two. -/
def xor (a b : Bytes) : Bytes := List.zipWith (· ^^^ ·) a b

def ofString (s : String) : Bytes := s.toUTF8.data.toList

def toString? (b : Bytes) : Option String := String.fromUTF8? ⟨b.toArray⟩

end Bytes

/-- A byte string of known length. -/
@[ext] structure Octets (n : Nat) where
  bytes : Bytes
  length_eq : bytes.length = n
  deriving DecidableEq

namespace Octets

theorem mk_eq_iff {n : Nat} {b : Bytes} {h : b.length = n} {a : Octets n} :
    ⟨b, h⟩ = a ↔ b = a.bytes := by
  cases a
  simp

def ofBytes? (n : Nat) (b : Bytes) : Option (Octets n) :=
  if h : b.length = n then some ⟨b, h⟩ else none

def take (n : Nat) (b : Bytes) (h : n ≤ b.length) : Octets n :=
  ⟨b.take n, by simp [h]⟩

def ofNatBE (n value : Nat) : Octets n := ⟨Bytes.ofNatBE n value, by simp⟩

def ofNatLE (n value : Nat) : Octets n := ⟨Bytes.ofNatLE n value, by simp⟩

def xor (a b : Octets n) : Octets n :=
  ⟨Bytes.xor a.bytes b.bytes, by simp [Bytes.xor, a.length_eq, b.length_eq]⟩

/-- The first `count` pieces of `n` bytes of a string that has so many. -/
def pieces (n : Nat) : (count : Nat) → (b : Bytes) → n * count ≤ b.length → List (Octets n)
  | 0, _, _ => []
  | count + 1, b, h =>
    have hn : n + n * count ≤ b.length := by rw [Nat.mul_succ] at h; omega
    take n b (by omega) :: pieces n count (b.drop n) (by rw [List.length_drop]; omega)

/-- The whole pieces of `n` bytes of a string. -/
def split (n : Nat) (b : Bytes) : List (Octets n) :=
  pieces n (b.length / n) b (Nat.mul_div_le b.length n)

def join (blocks : List (Octets n)) : Bytes := blocks.flatMap bytes

end Octets

end HbarKit
