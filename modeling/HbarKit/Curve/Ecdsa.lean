import HbarKit.Curve.Secp256k1
import HbarKit.Hash.Hmac
import HbarKit.Hash.Keccak
import HbarKit.Hash.Sha256

/-!
# ECDSA signatures

The Keccak-256 digest of a message is signed over secp256k1 with a nonce that is computed from the
secret and the digest. Of the two numbers that would serve as second half of a signature the
smaller one is written, and only that one is accepted.
-/
namespace HbarKit.Ecdsa

open Secp256k1

structure Secret where
  value : Nat
  pos : 0 < value
  lt_order : value < groupOrder
  deriving DecidableEq

namespace Secret

def ofBytes? (b : Bytes) : Option Secret :=
  if h : b.length = 32 ∧ 0 < Bytes.toNatBE b ∧ Bytes.toNatBE b < groupOrder then
    some ⟨Bytes.toNatBE b, h.2.1, h.2.2⟩
  else none

/-- A secret made of more bytes than it has, so that no secret is much likelier than others. -/
def ofWide (b : Octets 48) : Secret :=
  let value := Bytes.toNatBE b.bytes % (groupOrder - 1)
  have h : value < groupOrder - 1 := Nat.mod_lt _ (by decide)
  ⟨value + 1, Nat.succ_pos _, by omega⟩

def toOctets (s : Secret) : Octets 32 := Octets.ofNatBE 32 s.value

end Secret

def publicPoint (s : Secret) : AffinePoint :=
  ((Point.base.multiply 256 s.value).toAffine?).getD ⟨0, 0⟩

def digest (message : Bytes) : Bytes := Hash.keccak256.digest message

/-- The state from which nonces are drawn: a key and a value. -/
structure NonceState where
  (key value : Bytes)

namespace NonceState

def tag (s : NonceState) (m : Bytes) : Bytes := Hash.hmac Hash.sha256 s.key m

/-- The state with a new key made from the value, a byte and a seed, and then a new value. -/
def mix (s : NonceState) (mark : UInt8) (seed : Bytes) : NonceState :=
  let key := s.tag (s.value ++ mark :: seed)
  ⟨key, Hash.hmac Hash.sha256 key s.value⟩

def start (secret digest : Bytes) : NonceState :=
  let s : NonceState := ⟨List.replicate 32 0, List.replicate 32 1⟩
  (s.mix 0 (secret ++ digest)).mix 1 (secret ++ digest)

/-- The first drawn number that lies in range. A draw is out of range with a chance below `2⁻¹²⁷`,
and when all draws were, the nonce is one. -/
def draw : (draws : Nat) → NonceState → Nat
  | 0, _ => 1
  | draws + 1, s =>
    let value := s.tag s.value
    let n := Bytes.toNatBE value
    if 0 < n ∧ n < groupOrder then n else draw draws (NonceState.mix ⟨s.key, value⟩ 0 [])

end NonceState

def nonce (s : Secret) (digest : Bytes) : Nat :=
  NonceState.draw 16 (NonceState.start s.toOctets.bytes digest)

/-- The smaller of a number and its opposite in the group. -/
def lower (s : Nat) : Nat := if groupOrder / 2 < s then groupOrder - s else s

def sign (secret : Secret) (message : Bytes) : Octets 64 :=
  let z := digest message
  let k := nonce secret z
  let r := (((Point.base.multiply 256 k).toAffine?).getD ⟨0, 0⟩).x % groupOrder
  let s := Modular.inverse groupOrder k * (Bytes.toNatBE z + r * secret.value) % groupOrder
  ⟨Bytes.ofNatBE 32 r ++ Bytes.ofNatBE 32 (lower s), by simp⟩

def verify (key : AffinePoint) (message signature : Bytes) : Bool :=
  if signature.length ≠ 64 then false
  else
    let r := Bytes.toNatBE (signature.take 32)
    let s := Bytes.toNatBE (signature.drop 32)
    if r = 0 ∨ groupOrder ≤ r ∨ s = 0 ∨ groupOrder / 2 < s then false
    else
      let w := Modular.inverse groupOrder s
      let u := Bytes.toNatBE (digest message) * w % groupOrder
      let v := r * w % groupOrder
      let sum := (Point.base.multiply 256 u).add ((Point.ofAffine key).multiply 256 v)
      match sum.toAffine? with
      | none => false
      | some p => p.x % groupOrder == r

end HbarKit.Ecdsa
