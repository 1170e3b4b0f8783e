import HbarKit.Proofs.Keystore.RoundTrip

/-!
# Which keystores that are written can be opened

Writing a document asks nothing of the number of rounds, and opening refuses a document that tells
no rounds. So a key that was written without rounds is lost to whoever opens the document.
-/
namespace HbarKit.Keystore

variable (key : PrivateKey) (passphrase : String) (rounds : UInt32) (salt : Octets 32)
  (start : Octets 16)

/-- The document that is written for a key opens under its passphrase. -/
def Reopens : Prop :=
  ∃ found, openBytes (Bytes.ofString (encrypt key passphrase rounds salt start).text) passphrase =
    .ok found

theorem checkForm_encrypt_zero :
    (encrypt key passphrase 0 salt start).checkForm = .error (.malformed .noRounds) := rfl

/-- What comes of opening a document that was written depends on its number of rounds alone. -/
theorem openBytes_encrypt :
    openBytes (Bytes.ofString (encrypt key passphrase rounds salt start).text) passphrase =
      if rounds = 0 then .error (.malformed .noRounds) else .ok key.bare := by
  rw [openBytes_text]
  by_cases hrounds : rounds = 0
  · rw [if_pos hrounds, hrounds, decrypt, checkForm_encrypt_zero]
    rfl
  · rw [if_neg hrounds, ← ofPlain_raw key]
    exact decrypt_encrypt key passphrase rounds salt start hrounds (some key.scheme)

/-- What is written opens exactly if it was written with some round. Otherwise it is refused for the
number of its rounds. -/
theorem reopens_iff :
    (Reopens key passphrase rounds salt start ↔ rounds ≠ 0) ∧
      openBytes (Bytes.ofString (encrypt key passphrase rounds salt start).text) passphrase =
        if rounds = 0 then .error (.malformed .noRounds) else .ok key.bare := by
  refine ⟨?_, openBytes_encrypt key passphrase rounds salt start⟩
  constructor
  · rintro ⟨found, hfound⟩ rfl
    rw [openBytes_encrypt, if_pos rfl] at hfound
    cases hfound
  · intro hrounds
    exact ⟨key.bare, (openBytes_encrypt key passphrase rounds salt start).trans (if_neg hrounds)⟩

/-- A key of seven, under a passphrase that is stretched in no rounds. -/
theorem not_reopens_withoutRounds :
    ¬ Reopens (.ed25519 (Octets.ofNatBE 32 7) none) "pw" 0 (Octets.ofNatBE 32 9)
      (Octets.ofNatBE 16 10) := by
  rintro ⟨found, hfound⟩
  rw [openBytes_encrypt, if_pos rfl] at hfound
  cases hfound

end HbarKit.Keystore
