import HbarKit.Bytes

/-!
# Hash functions

A hash function maps a message of any length to a digest of fixed length and works on blocks. All
of the functions here pad the message to whole blocks and fold the blocks into a state.
-/
namespace HbarKit.Hash

/-- A hash function with the lengths of its blocks and digests in bytes. -/
structure HashFunction where
  blockLength : Nat
  digestLength : Nat
  digest : Bytes → Bytes
  length_digest : ∀ m, (digest m).length = digestLength

attribute [simp] HashFunction.length_digest

/-- Folds `count` blocks of a length into a state. -/
def absorbCount (absorb : σ → Bytes → σ) (block : Nat) : (count : Nat) → σ → Bytes → σ
  | 0, s, _ => s
  | count + 1, s, m => absorbCount absorb block count (absorb s (m.take block)) (m.drop block)

def absorbBlocks (absorb : σ → Bytes → σ) (block : Nat) (s : σ) (m : Bytes) : σ :=
  absorbCount absorb block (m.length / block) s m

/-- The message, a one bit, zeros, and the length of the message in bits as a number of `width`
bytes, up to whole blocks. -/
def pad (block width : Nat) (m : Bytes) : Bytes :=
  let zeros := (2 * block - 1 - width - m.length % block) % block
  m ++ 0x80 :: List.replicate zeros 0 ++ Bytes.ofNatBE width (8 * m.length)

end HbarKit.Hash
