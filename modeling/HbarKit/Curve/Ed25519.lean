import HbarKit.Curve.Edwards
import HbarKit.Hash.Sha512

/-!
# Ed25519 signatures

A seed of 32 bytes is hashed to a secret factor and a secret string from which the nonce of each
message comes. A signature is the written nonce point and a number below the group order. It is
checked by computing the nonce point and comparing its written form with the one given, without
multiplying by the cofactor.
-/
namespace HbarKit.Ed25519

open Edwards

def hashToFactor (m : Bytes) : Nat := Bytes.toNatLE (Hash.sha512.digest m) % groupOrder

/-- The secret factor of a seed: bit 254 set, the bits above it and the lowest three clear. -/
def secretFactor (seed : Octets 32) : Nat :=
  let n := Bytes.toNatLE ((Hash.sha512.digest seed.bytes).take 32)
  n % Nat.pow 2 254 / 8 * 8 + Nat.pow 2 254

def publicKey (seed : Octets 32) : Octets 32 :=
  (Point.base.multiply 256 (secretFactor seed)).encode

def sign (seed : Octets 32) (message : Bytes) : Octets 64 :=
  let nonce := hashToFactor ((Hash.sha512.digest seed.bytes).drop 32 ++ message)
  let point := (Point.base.multiply 256 nonce).encode
  let challenge := hashToFactor (point.bytes ++ (publicKey seed).bytes ++ message)
  let response := (nonce + challenge * secretFactor seed) % groupOrder
  ⟨point.bytes ++ Bytes.ofNatLE 32 response, by simp [point.length_eq]⟩

def verify (key : Octets 32) (message signature : Bytes) : Bool :=
  if signature.length ≠ 64 then false
  else
    let nonce := signature.take 32
    let response := Bytes.toNatLE (signature.drop 32)
    if groupOrder ≤ response then false
    else
      match Point.decode? key with
      | none => false
      | some point =>
        let challenge := hashToFactor (nonce ++ key.bytes ++ message)
        let expected :=
          (Point.base.multiply 256 response).add (point.negate.multiply 256 challenge)
        expected.encode.bytes == nonce

end HbarKit.Ed25519
