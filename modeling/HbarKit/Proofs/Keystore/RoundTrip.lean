import HbarKit.Proofs.Bytes.Hex
import HbarKit.Proofs.Cipher.Mode
import HbarKit.Proofs.Key.Bare
import HbarKit.Proofs.Keystore.Document
import HbarKit.Proofs.Keystore.Verification

/-!
# Keystores give their keys back

A document that was written for a key passes every check under the same passphrase, and what is
decrypted is the bare key that was encrypted. The scheme in the document decides how the bare key is
read, so a document that does not tell it still serves for the scheme that old documents have.
-/
namespace HbarKit

/-- An object without its members of a name. -/
def Json.without (name : String) : Json → Json
  | object members => object (members.filter fun m => m.1 ≠ name)
  | j => j

namespace Keystore

/-- The bare bytes of a key are read as the key itself, without its chain code. -/
theorem ofPlain_raw (key : PrivateKey) : ofPlain key.scheme key.raw = .ok key.bare := by
  cases key with
  | ed25519 seed chainCode =>
    exact congrArg (Except.mapError KeystoreError.key) (PrivateKey.ofBytesEd25519_seed seed)
  | ecdsa secret =>
    exact congrArg (Except.mapError KeystoreError.key) (PrivateKey.ofBytesEcdsa_secret secret)

section

variable (key : PrivateKey) (passphrase : String) (rounds : UInt32) (salt : Octets 32)
  (start : Octets 16)

/-- A document that was written passes every check under its passphrase, whatever scheme it is made
to tell afterwards. -/
theorem checks_encrypt (hrounds : rounds ≠ 0) (scheme : Option Scheme) :
    ∀ c ∈ checks { encrypt key passphrase rounds salt start with scheme } passphrase,
      c.holds = true := by
  simp [checks, formChecks, nameChecks, byteChecks, hexCheck, macCheck, rightMac, stretched,
    bytesOf, encrypt, keys, tag, hrounds, start.length_eq]

theorem decrypted_encrypt (scheme : Option Scheme) :
    decrypted { encrypt key passphrase rounds salt start with scheme } passphrase = key.raw := by
  simp [decrypted, startOf, stretched, bytesOf, encrypt, keys, Cipher.counterMode_counterMode]

/-- What is decrypted is the bare key, and it is read as a key of the scheme that is told. -/
theorem decrypt_encrypt (hrounds : rounds ≠ 0) (scheme : Option Scheme) :
    decrypt { encrypt key passphrase rounds salt start with scheme } passphrase =
      ofPlain (scheme.getD .ed25519) key.raw := by
  rw [decrypt_of_holds (checks_encrypt key passphrase rounds salt start hrounds scheme),
    decrypted_encrypt]

end

/-- The text of a document gives under a passphrase a key of the same scheme with the same secret,
and without a chain code. -/
def Restores (text passphrase : String) (key : PrivateKey) : Prop :=
  ∃ found, openBytes (Bytes.ofString text) passphrase = .ok found ∧ found.scheme = key.scheme ∧
    found.secret = key.secret ∧ found.chainCode? = none

theorem restores_of_openBytes {text passphrase : String} {key : PrivateKey}
    (h : openBytes (Bytes.ofString text) passphrase = .ok key.bare) :
    Restores text passphrase key := by
  exact ⟨key.bare, h, key.scheme_bare, key.secret_bare, key.chainCode?_bare⟩

/-- A document without the member that tells the scheme is one that does not tell it. -/
theorem toJson_without (k : Keystore) :
    k.toJson.without "keyType" = { k with scheme := none }.toJson := by
  obtain ⟨version, crypto, scheme⟩ := k
  cases scheme <;> rfl

/-- Every key is restored from its document, and a key of the scheme of old documents also from the
document without the scheme. -/
theorem restores_encrypt (key : PrivateKey) (passphrase : String) (rounds : UInt32)
    (salt : Octets 32) (start : Octets 16) (hrounds : rounds ≠ 0) :
    let k := encrypt key passphrase rounds salt start
    Restores k.text passphrase key ∧
      (key.scheme = .ed25519 → Restores (k.toJson.without "keyType").compact passphrase key) := by
  intro k
  constructor
  · apply restores_of_openBytes
    have hdecrypt := decrypt_encrypt key passphrase rounds salt start hrounds (some key.scheme)
    rw [openBytes_text, ← ofPlain_raw key]
    exact hdecrypt
  · intro hscheme
    apply restores_of_openBytes
    have hdecrypt := decrypt_encrypt key passphrase rounds salt start hrounds none
    have hraw := ofPlain_raw key
    rw [hscheme] at hraw
    rw [toJson_without, ← hraw]
    exact (openBytes_text _ passphrase).trans hdecrypt

/-- A key with a chain code, under a passphrase that is more bytes than characters. -/
theorem restores_encrypt_chained :
    let key := PrivateKey.ed25519 (Octets.ofNatBE 32 7) (some (Octets.ofNatBE 32 8))
    let k := encrypt key "pässword" 1 (Octets.ofNatBE 32 9) (Octets.ofNatBE 16 10)
    (1 : UInt32) ≠ 0 ∧ Restores k.text "pässword" key ∧
      Restores (k.toJson.without "keyType").compact "pässword" key := by
  intro key k
  have hrounds : (1 : UInt32) ≠ 0 := by decide
  obtain ⟨hwhole, hwithout⟩ := restores_encrypt key "pässword" 1 (Octets.ofNatBE 32 9)
    (Octets.ofNatBE 16 10) hrounds
  exact ⟨hrounds, hwhole, hwithout rfl⟩

end Keystore

end HbarKit
