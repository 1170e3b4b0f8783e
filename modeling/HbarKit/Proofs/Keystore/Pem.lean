import HbarKit.Keystore.Pem
import HbarKit.Proofs.Key.RoundTrip
import HbarKit.Proofs.Keystore.Armor
import HbarKit.Proofs.Keystore.Encrypted

/-!
# Keys come back from armored text

A key that was written as a text block is read back, from a plain block whatever passphrase is
given and from an encrypted one under the passphrase it was written with.
-/
namespace HbarKit.PrivateKey

theorem isLabel_plainLabel : Armor.IsLabel plainLabel := ⟨by decide, by decide⟩

theorem isLabel_encryptedLabel : Armor.IsLabel encryptedLabel := ⟨by decide, by decide⟩

section

variable (k : PrivateKey) (passphrase : String) (salt start : Octets 16)

/-- A plain block holds the bare key, and no passphrase is asked for. -/
theorem ofPem_toPem (given : Option String) : ofPem k.toPem given = .ok k.bare := by
  rw [ofPem, toPem, Armor.parse_text isLabel_plainLabel]
  simp only [if_true, ofDer_der]
  rfl

theorem ofEncrypted_toDer :
    ofEncrypted (EncryptedKey.toDer salt.bytes start.bytes
      (EncryptedKey.ofPlain k.der passphrase salt start).ciphertext) (some passphrase) =
        .ok k.bare := by
  have hlength : k.der.length < 60000 := by
    obtain h | h := k.length_der <;> omega
  simp only [ofEncrypted, EncryptedKey.ofDer_ofPlain _ _ _ _ hlength, EncryptedKey.decrypt?_ofPlain,
    Option.map_some, ofDer_der]

/-- What comes of an encrypted block is settled by the document in it. -/
theorem ofPem_toEncryptedPem (given : Option String) :
    ofPem (k.toEncryptedPem passphrase salt start) given =
      ofEncrypted (EncryptedKey.toDer salt.bytes start.bytes
        (EncryptedKey.ofPlain k.der passphrase salt start).ciphertext) given := by
  have hother : encryptedLabel ≠ plainLabel := by decide
  rw [ofPem, toEncryptedPem, Armor.parse_text isLabel_encryptedLabel]
  simp only [if_neg hother, if_true]

end

/-- A text gives a key of the same scheme with the same secret. -/
def Restores (text : String) (given : Option String) (k : PrivateKey) : Prop :=
  ∃ found, ofPem text given = .ok found ∧ found.scheme = k.scheme ∧ found.secret = k.secret

theorem restores_of_ofPem {text : String} {given : Option String} {k : PrivateKey}
    (h : ofPem text given = .ok k.bare) : Restores text given k :=
  ⟨k.bare, h, k.scheme_bare, k.secret_bare⟩

/-- Every key is read from its plain block, with a passphrase or without one, and from its encrypted
blocks with the passphrase, but not without one. -/
theorem restores_toPem_and_toEncryptedPem (k : PrivateKey) :
    (∀ given, Restores k.toPem given k) ∧
      ∀ passphrase salt start,
        Restores (k.toEncryptedPem passphrase salt start) (some passphrase) k ∧
          ofPem (k.toEncryptedPem passphrase salt start) none = .error .passphraseRequired := by
  refine ⟨?plain, ?encrypted⟩
  case plain =>
    intro given
    exact restores_of_ofPem (ofPem_toPem k given)
  case encrypted =>
    intro passphrase salt start
    refine ⟨restores_of_ofPem ?_, ?_⟩
    · rw [ofPem_toEncryptedPem, ofEncrypted_toDer]
    · rw [ofPem_toEncryptedPem]
      rfl

end HbarKit.PrivateKey
