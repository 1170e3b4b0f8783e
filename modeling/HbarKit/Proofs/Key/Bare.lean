import HbarKit.Key.Private
import HbarKit.Proofs.Bytes.Numbers

/-!
# Reading bare keys back

The bare bytes of a key are read as the key itself where its scheme is known, except that a chain
code is not among them.
-/
namespace HbarKit

theorem Ecdsa.Secret.ofBytes?_toOctets (s : Ecdsa.Secret) :
    Ecdsa.Secret.ofBytes? s.toOctets.bytes = some s := by
  have hfits : Secp256k1.groupOrder < 256 ^ 32 := by decide
  have hpos := s.pos
  have hlt := s.lt_order
  have hvalue : Bytes.toNatBE s.toOctets.bytes = s.value := by
    have hread := Bytes.toNatBE_ofNatBE 32 s.value
    rwa [Nat.mod_eq_of_lt (by omega)] at hread
  rw [ofBytes?, dif_pos ⟨s.toOctets.length_eq, by omega, by omega⟩]
  simp [hvalue]

theorem Ecdsa.Secret.toOctets_of_ofBytes? {b : Bytes} {s : Ecdsa.Secret} (h : ofBytes? b = some s) :
    s.toOctets.bytes = b := by
  unfold ofBytes? at h
  split at h
  · rename_i hvalid
    cases h
    have hbytes := Bytes.ofNatBE_toNatBE b
    rwa [hvalid.1] at hbytes
  · cases h

namespace PrivateKey

/-- The key without its chain code. -/
def bare : PrivateKey → PrivateKey
  | ed25519 seed _ => ofSeed seed
  | ecdsa secret => ecdsa secret

@[simp] theorem scheme_bare (k : PrivateKey) : k.bare.scheme = k.scheme := by
  cases k <;> rfl

@[simp] theorem secret_bare (k : PrivateKey) : k.bare.secret = k.secret := by
  cases k <;> rfl

@[simp] theorem chainCode?_bare (k : PrivateKey) : k.bare.chainCode? = none := by
  cases k <;> rfl

theorem ofBytesEd25519_seed (seed : Octets 32) :
    ofBytesEd25519 seed.bytes = .ok (ofSeed seed) := by
  have hlength := seed.length_eq
  have hseed : Octets.take 32 seed.bytes (by omega) = seed :=
    Octets.ext (List.take_of_length_le (by omega))
  rw [ofBytesEd25519, dif_pos (.inl hlength), hseed]

theorem ofBytesEcdsa_secret (secret : Ecdsa.Secret) :
    ofBytesEcdsa secret.toOctets.bytes = .ok (ecdsa secret) := by
  rw [ofBytesEcdsa, if_pos secret.toOctets.length_eq, ofEcdsaSecret,
    Ecdsa.Secret.ofBytes?_toOctets]

end PrivateKey

end HbarKit
