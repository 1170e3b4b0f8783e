import HbarKit.Key.Private
import HbarKit.Proofs.Der.Consumption
import HbarKit.Proofs.Key.Spelling

/-!
# Documents among bare keys

A string of bytes is taken for a bare key when it has the length of one. No private key document is
as short as a secret, but some are as long as a seed with its public key, and such a document gives
two keys: its own where a document is expected, and one of its first bytes where the length decides.
-/
namespace HbarKit

/-! ## How long a document is -/

namespace KeyDocument

theorem consumes_privateInfo : Der.Consumes privateInfo fun info => info.key.length + 8 := by
  refine Der.Consumes.tagged (s := fun info : PrivateInfo => info.key.length + 6) ?_ 0x30
  apply (Der.consumes_unsigned 1).bind
  intro version
  refine Der.Consumes.unless ?_
  apply Der.consumes_algorithm.bind
  intro algorithm
  apply Der.consumes_octetString.bind
  intro key
  apply ((Der.consumes_wholeBitContent.tagged _).field 1).next
  intro publicKey
  refine Der.Consumes.unless ?_
  apply Der.consumes_anyFields.next
  intro _
  exact Der.consumes_pure (by simp)

theorem consumes_ellipticKey : Der.Consumes ellipticKey fun p => p.1.length + 6 := by
  refine Der.Consumes.tagged (s := fun p : Bytes × Option Bytes => p.1.length + 4) ?_ 0x30
  apply (Der.consumes_unsigned 1).bind
  intro version
  refine Der.Consumes.unless ?_
  apply Der.consumes_octetString.bind
  intro secret
  apply ((Der.consumes_oid.tagged _).field 0).next
  intro _
  apply (((Der.consumes_wholeBitContent.tagged 0x03).tagged _).field 1).next
  intro publicKey
  exact Der.consumes_pure (by simp)

theorem length_of_innerSecret {key secret : Bytes} (h : innerSecret key = .ok secret) :
    secret.length + 2 ≤ key.length := by
  unfold innerSecret at h
  split at h
  · rename_i hwhole
    cases h
    exact Der.consumes_octetString.le_of_whole? hwhole
  · cases h

theorem length_of_ellipticSecret? {key : Bytes} {secret : Ecdsa.Secret}
    (h : ellipticSecret? key = some secret) : 30 ≤ key.length := by
  unfold ellipticSecret? at h
  obtain ⟨⟨bytes, publicKey⟩, hwhole, h⟩ := Option.bind_eq_some_iff.mp h
  have hkey := consumes_ellipticKey.le_of_whole? hwhole
  by_cases hlength : bytes.length < 24 ∨ 32 < bytes.length
  · simp only [if_pos hlength] at h
    cases h
  · simp only at hkey
    omega

/-- No private key document is as short as a bare secret. -/
theorem length_of_readPrivate {b raw : Bytes} {scheme : Scheme}
    (h : readPrivate b = .ok (scheme, raw)) (hraw : raw.length = 32) : 32 < b.length := by
  unfold readPrivate at h
  split at h
  · cases h
  · rename_i info hwhole
    have hinfo := consumes_privateInfo.le_of_whole? hwhole
    -- A bare secret keeps its 32 bytes, one of an elliptic curve key may be eight bytes short.
    have hkey : 30 ≤ info.key.length := by
      split at h
      · obtain ⟨secret, hsecret, h⟩ := bind_eq_ok.mp h
        cases h
        have hlength := length_of_innerSecret hsecret
        omega
      · split at h
        · obtain ⟨secret, hsecret, h⟩ := bind_eq_ok.mp h
          cases h
          have hlength := length_of_innerSecret hsecret
          omega
        · split at h
          · obtain ⟨_, _, h⟩ := bind_eq_ok.mp h
            split at h
            · rename_i secret hsecret
              exact length_of_ellipticSecret? hsecret
            · cases h
          · cases h
    omega

end KeyDocument

namespace PrivateKey

/-! ## Readings of a document -/

/-- Whether a key is read that has the scheme and the secret of another one. -/
def Gives (r : Except KeyError PrivateKey) (k : PrivateKey) : Prop :=
  ∃ found, r = .ok found ∧ found.scheme = k.scheme ∧ found.secret = k.secret

/-- Whether bytes are read as a key wherever bytes or their digits are admitted, but not as one of
Ed25519 if it is of the other scheme. -/
structure ReadAlike (b : Bytes) (k : PrivateKey) : Prop where
  bytes : Gives (ofBytes b) k
  text : Gives (parse (Hex.encode b)) k
  ed25519 : k.scheme = .ed25519 → Gives (ofBytesEd25519 b) k
  ecdsa : k.scheme = .ecdsa → ofBytesEd25519 b = .error (.mismatch .ed25519 .ecdsa)

theorem gives_self (k : PrivateKey) : Gives (.ok k) k := ⟨k, rfl, rfl, rfl⟩

theorem parse_encode (b : Bytes) : parse (Hex.encode b) = ofBytes b := by
  rw [parse, KeyDocument.ofText_encode]
  rfl

/-- A document of a key is longer than the key. -/
theorem length_of_ofDer {b : Bytes} {k : PrivateKey} (h : ofDer b = .ok k) : 32 < b.length := by
  obtain ⟨⟨scheme, raw⟩, hread, h⟩ := bind_eq_ok.mp h
  by_cases hraw : raw.length = 32
  · exact KeyDocument.length_of_readPrivate hread hraw
  · simp only [Octets.ofBytes?, dif_neg hraw] at h
    cases h

/-- A document that has no length of a bare key is read as its key. -/
theorem readAlike_of_ofDer {b : Bytes} {k : PrivateKey} (h : ofDer b = .ok k)
    (hlength : b.length ≠ 64) : ReadAlike b k := by
  have hbare : ¬ (b.length = 32 ∨ b.length = 64) := by
    have hlong := length_of_ofDer h
    omega
  have hbytes : ofBytes b = .ok k := by rw [ofBytes, if_neg hbare, h]
  have hed25519 : ofBytesEd25519 b = expect .ed25519 k := by
    rw [ofBytesEd25519, dif_neg hbare, h]
    rfl
  constructor
  · rw [hbytes]
    exact gives_self k
  · rw [parse_encode, hbytes]
    exact gives_self k
  · intro hscheme
    rw [hed25519, expect, if_pos hscheme]
    exact gives_self k
  · intro hscheme
    rw [hed25519, expect, hscheme]
    rfl

/-- A string of the length of a seed and its public key is read as the key of its first bytes. -/
theorem ofBytes_of_length {b : Bytes} (h : b.length = 64) :
    ofBytes b = .ok (ofSeed (Octets.take 32 b (by omega))) := by
  rw [ofBytes, if_pos (.inr h), ofBytesEd25519, dif_pos (.inr h)]

theorem ofBytesEd25519_of_length {b : Bytes} (h : b.length = 64) :
    ofBytesEd25519 b = .ok (ofSeed (Octets.take 32 b (by omega))) := by
  rw [ofBytesEd25519, dif_pos (.inr h)]

/-- A document is read as its key everywhere if and only if it has another length than a seed and
its public key, or its key is the seed that the document begins with. -/
theorem readAlike_iff {b : Bytes} {k : PrivateKey} (h : ofDer b = .ok k) :
    ReadAlike b k ↔ (b.length = 64 → k.scheme = .ed25519 ∧ k.raw = b.take 32) := by
  constructor
  · intro halike hlength
    obtain ⟨found, hfound, hscheme, hsecret⟩ := halike.bytes
    rw [ofBytes_of_length hlength] at hfound
    cases hfound
    refine ⟨hscheme.symm, ?_⟩
    rw [raw, ← hsecret]
    rfl
  · intro hseed
    by_cases hlength : b.length = 64
    · obtain ⟨hscheme, hraw⟩ := hseed hlength
      have hgives : Gives (.ok (ofSeed (Octets.take 32 b (by omega)))) k :=
        ⟨_, rfl, hscheme.symm, Octets.ext hraw.symm⟩
      constructor
      · rw [ofBytes_of_length hlength]
        exact hgives
      · rw [parse_encode, ofBytes_of_length hlength]
        exact hgives
      · intro _
        rw [ofBytesEd25519_of_length hlength]
        exact hgives
      · intro hecdsa
        rw [hscheme] at hecdsa
        cases hecdsa
    · exact readAlike_of_ofDer h hlength

/-- The shortest document of an elliptic curve key whose curve is a parameter: it has neither other
fields nor the public key. -/
def shortestDocument : Bytes :=
  [0x30, 0x3e, 0x02, 0x01, 0x00, 0x30, 0x10, 0x06, 0x07, 0x2a, 0x86, 0x48, 0xce, 0x3d, 0x02, 0x01,
    0x06, 0x05, 0x2b, 0x81, 0x04, 0x00, 0x0a, 0x04, 0x27, 0x30, 0x25, 0x02, 0x01, 0x01, 0x04, 0x20,
    0xd7, 0x90, 0xc2, 0x7a, 0x81, 0xd7, 0x45, 0xad, 0x33, 0x40, 0xe2, 0x7d, 0xac, 0xed, 0xc9, 0x82,
    0xd1, 0xf9, 0x25, 0x2c, 0x0d, 0x7a, 0x45, 0x82, 0xda, 0x98, 0x47, 0xe2, 0x09, 0x46, 0x03, 0xd4]

theorem ofDer_shortestDocument :
    ∃ secret, ofDer shortestDocument = .ok (ecdsa secret) := by
  have hscheme : (ofDer shortestDocument).toOption.map scheme = some .ecdsa := by decide +kernel
  cases hk : ofDer shortestDocument with
  | error e =>
    rw [hk] at hscheme
    cases hscheme
  | ok k =>
    rw [hk] at hscheme
    cases k with
    | ed25519 seed chainCode => cases hscheme
    | ecdsa secret => exact ⟨secret, rfl⟩

/-- It has the length of a seed and its public key, so bare bytes of it are read as another key. -/
theorem not_readAlike_shortestDocument :
    ∃ k, ofDer shortestDocument = .ok k ∧ ¬ ReadAlike shortestDocument k := by
  obtain ⟨secret, hk⟩ := ofDer_shortestDocument
  refine ⟨_, hk, ?_⟩
  intro halike
  obtain ⟨found, hfound, hscheme, _⟩ := halike.bytes
  rw [ofBytes_of_length (by decide)] at hfound
  cases hfound
  cases hscheme

theorem readAlike_iff_shortestDocument : ∃ secret,
    ofDer shortestDocument = .ok (ecdsa secret) ∧
      (ReadAlike shortestDocument (ecdsa secret) ↔
        (shortestDocument.length = 64 → (ecdsa secret).scheme = .ed25519 ∧
          (ecdsa secret).raw = shortestDocument.take 32)) := by
  obtain ⟨secret, hk⟩ := ofDer_shortestDocument
  exact ⟨secret, hk, readAlike_iff hk⟩

end PrivateKey

end HbarKit
