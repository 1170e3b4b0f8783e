import HbarKit.Keystore.Encrypted
import HbarKit.Proofs.Cipher.Chaining
import HbarKit.Proofs.Der.Encoding

/-!
# Reading encrypted documents

What is written around the cipher text tells how the passphrase is stretched and where the cipher
starts, and it is read as that. With both known the cipher text is decrypted.
-/
namespace HbarKit.EncryptedKey

open Der (Takes encode)

variable {rest : Bytes}

/-! ## What is written -/

/-- The stretching in documents that are written. -/
def stretchBytes (salt : Bytes) : Bytes :=
  encode 0x04 salt ++ (encode 0x02 (Bytes.ofNatBE 2 rounds) ++
    encode 0x30 (encode 0x06 (digestOid 9) ++ encode 0x05 []))

/-- The encryption in documents that are written. -/
def encryptionBytes (salt start : Bytes) : Bytes :=
  encode 0x30 (encode 0x06 (passwordOid 12) ++ encode 0x30 (stretchBytes salt)) ++
    encode 0x30 (encode 0x06 (aesOid 42) ++ encode 0x04 start)

theorem toDer_eq (salt start ciphertext : Bytes) :
    toDer salt start ciphertext =
      encode 0x30 (encode 0x30 (encode 0x06 (passwordOid 13) ++
        encode 0x30 (encryptionBytes salt start)) ++ encode 0x04 ciphertext) := by
  simp [toDer, encryptionBytes, stretchBytes]

theorem length_stretchBytes {salt : Bytes} (h : salt.length = 16) :
    (stretchBytes salt).length = 36 := by
  simp [stretchBytes, encode, Der.encodeLength, h, digestOid]

theorem length_encryptionBytes {salt start : Bytes} (hsalt : salt.length = 16)
    (hstart : start.length = 16) : (encryptionBytes salt start).length = 82 := by
  have hstretch := length_stretchBytes hsalt
  simp [encryptionBytes, encode, Der.encodeLength, hstretch, hstart, passwordOid, aesOid]

/-! ## What is read -/

theorem takes_iterated {salt : Bytes} (h : salt.length = 16) :
    Takes iterated (stretchBytes salt) [] (.iterated salt rounds none .sha256) := by
  have hrounds : Takes (number 4) (encode 0x02 (Bytes.ofNatBE 2 rounds))
      (encode 0x30 (encode 0x06 (digestOid 9) ++ encode 0x05 [])) rounds :=
    (Der.takes_unsigned (b := [8, 0]) rfl (by decide) (by decide)).located
  have hhash : Takes optionalHash (encode 0x30 (encode 0x06 (digestOid 9) ++ encode 0x05 [])) []
      .sha256 := by
    have halgorithm : Takes Der.algorithm
        (encode 0x30 (encode 0x06 (digestOid 9) ++ encode 0x05 [])) []
        ⟨digestOid 9, some ⟨0x05, []⟩⟩ :=
      Der.takes_algorithm_parameter (by decide) (by decide) (by decide) (by decide)
    exact (halgorithm.present (by decide) (by decide)).last (Der.takes_settle _)
  apply (Der.takes_octetString (by omega)).bind
  apply Takes.bind hrounds
  -- The next element is no number but the algorithm.
  apply (Der.takes_optional_other [] _ (by decide) (by decide)).located.after
  exact hhash.last (Der.takes_pure _)

/-- The names of what is written tell how its parameters are read. -/
theorem stretchOf_iterated (content : Bytes) :
    stretchOf ⟨passwordOid 12, some ⟨0x30, content⟩⟩ = Der.whole iterated content := rfl

theorem encryptionOf_new (content : Bytes) :
    encryptionOf ⟨passwordOid 13, some ⟨0x30, content⟩⟩ = Der.whole newParameters content := rfl

theorem cipherOf_aes {start : Bytes} (h : start.length = 16) :
    cipherOf ⟨aesOid 42, some ⟨0x04, start⟩⟩ = .ok (32, ⟨start, h⟩) := by
  have hbytes : Octets.ofBytes? 16 start = some ⟨start, h⟩ := dif_pos h
  have hshort : aesOid 42 ≠ aesOid 2 := by decide
  have hmiddle : aesOid 42 ≠ aesOid 22 := by decide
  simp [cipherOf, parameter, hshort, hmiddle, hbytes, bind, Except.bind, pure, Except.pure]

theorem takes_newParameters {salt start : Bytes} (hsalt : salt.length = 16)
    (hstart : start.length = 16) :
    Takes newParameters (encryptionBytes salt start) []
      (.aes (.iterated salt rounds none .sha256) 32 ⟨start, hstart⟩) := by
  have hlength := length_stretchBytes hsalt
  apply (Der.takes_algorithm_parameter (by decide) (by decide) (by decide) (by omega)).bind
  apply (Der.takes_algorithm_parameter (by decide) (by decide) (by decide) (by omega)).last
  rw [stretchOf_iterated, (takes_iterated hsalt).whole, cipherOf_aes hstart]
  apply (Der.takes_settle _).last
  exact (Der.takes_settle _).last (Der.takes_pure _)

/-- What is read is what was written. -/
theorem ofDer_toDer {salt start ciphertext : Bytes} (hsalt : salt.length = 16)
    (hstart : start.length = 16) (hciphertext : ciphertext.length < 65000) :
    ofDer (toDer salt start ciphertext) =
      .ok ⟨.aes (.iterated salt rounds none .sha256) 32 ⟨start, hstart⟩, ciphertext⟩ := by
  have hlength := length_encryptionBytes hsalt hstart
  have halgorithm (rest : Bytes) : Takes Der.algorithm
      (encode 0x30 (encode 0x06 (passwordOid 13) ++ encode 0x30 (encryptionBytes salt start))) rest
      ⟨passwordOid 13, some ⟨0x30, encryptionBytes salt start⟩⟩ :=
    Der.takes_algorithm_parameter (by decide) (by decide) (by decide) (by omega)
  have hfirst := Der.length_encode_le 0x30
    (encode 0x06 (passwordOid 13) ++ encode 0x30 (encryptionBytes salt start))
  have hsecond := Der.length_encode_le 0x04 ciphertext
  have hparameter := Der.length_encode_le 0x30 (encryptionBytes salt start)
  have hoid : (encode 0x06 (passwordOid 13)).length = 11 := by decide
  rw [toDer_eq]
  apply Takes.whole
  refine Takes.tagged ?_ (by decide) ?_
  · apply Takes.bind
    · apply Takes.located
      apply (halgorithm _).last
      rw [encryptionOf_new, (takes_newParameters hsalt hstart).whole]
      exact Der.takes_settle _
    · exact (Der.takes_octetString (by omega)).last (Der.takes_pure _)
  · rw [List.length_append] at hfirst ⊢
    omega

section

variable (document : Bytes) (passphrase : String) (salt start : Octets 16)

/-- A document of ordinary size is read as it was encrypted. -/
theorem ofDer_ofPlain (h : document.length < 60000) :
    ofDer (toDer salt.bytes start.bytes (ofPlain document passphrase salt start).ciphertext) =
      .ok (ofPlain document passphrase salt start) := by
  apply ofDer_toDer salt.length_eq start.length_eq
  rw [ofPlain, Cipher.length_encryptChained, Cipher.length_fill]
  omega

/-- A document is decrypted under its passphrase. -/
theorem decrypt?_ofPlain :
    (ofPlain document passphrase salt start).decrypt? passphrase = some document := by
  simp only [decrypt?, ofPlain, Stretch.key?]
  exact Cipher.decryptChained?_encryptChained (Cipher.aes_decrypt_encrypt _) start document

end

end HbarKit.EncryptedKey
