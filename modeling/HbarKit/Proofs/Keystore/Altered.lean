import HbarKit.Proofs.Cipher.Aes
import HbarKit.Proofs.Json.Choice
import HbarKit.Proofs.Keystore.RoundTrip

/-!
# Altered keystores

The tag of a document is that of its cipher text. The start value and the scheme are not under it,
so a document passes all checks after they were altered: it gives what the cipher text is decrypted
to from the other start value, as a key of the other scheme. The secret comes back from the start
value it was encrypted with and from no other one.
-/
namespace HbarKit

/-- An object with one member more. -/
def Json.adding (j : Json) (name : String) (value : Json) : Json :=
  match j with
  | object members => object (members ++ [(name, value)])
  | j => j

namespace Keystore

/-- A document with another start value and another scheme, or none. -/
def rewritten (k : Keystore) (start : String) (scheme : Option Scheme) : Keystore :=
  { k with crypto := { k.crypto with start }, scheme }

/-- What is written of a document with another start value and any value in the place of the name of
the scheme, or nothing there. -/
def altered (k : Keystore) (start : String) : (keyType : Option Json) → Json
  | some value => (k.rewritten start none).toJson.adding "keyType" value
  | none => (k.rewritten start none).toJson

/-- The scheme that a value in its place tells. Old documents have none there. -/
def told? : Option Json → Option Scheme
  | none | some .null => some .ed25519
  | some value => value.chosen?.bind Scheme.ofName?

/-- Opening a text fails, or it gives a key of the same scheme with the same secret. -/
def FailsOrRestores (text passphrase : String) (key : PrivateKey) : Prop :=
  ∀ found, openBytes (Bytes.ofString text) passphrase = .ok found →
    found.scheme = key.scheme ∧ found.secret = key.secret

/-! ## Reading altered documents -/

/-- How the scheme is read, if it is told. -/
def readTold : Json.Reader (Option Scheme) :=
  Json.readOptional (Json.readChoice [("ed25519", Scheme.ed25519), ("ecdsa", .ecdsa)])

theorem find?_schemes (name : String) :
    [("ed25519", Scheme.ed25519), ("ecdsa", .ecdsa)].find? (fun c => c.1 = name) =
      (Scheme.ofName? name).map fun s => (name, s) := by
  simp only [Scheme.ofName?]
  grind

theorem readsBack_told {value : Json} {told : Scheme} (h : told? (some value) = some told) :
    ∃ scheme : Option Scheme, scheme.getD .ed25519 = told ∧
      Json.ReadsBack readTold value scheme := by
  by_cases hnull : value = .null
  · subst hnull
    cases h
    exact ⟨none, rfl, Json.readsBack_optional_null _⟩
  · have hchosen : value.chosen?.bind Scheme.ofName? = some told := by simpa [told?, hnull] using h
    obtain ⟨name, hname, htold⟩ := Option.bind_eq_some_iff.mp hchosen
    have hfind := find?_schemes name
    rw [htold] at hfind
    exact ⟨some told, rfl,
      Json.readsBack_optional_of_ne hnull (Json.readsBack_choice_of_chosen hname hfind)⟩

theorem refuses_untold {value : Json} (h : told? (some value) = none) :
    Json.Refuses readTold value := by
  have hnull : value ≠ .null := by
    rintro rfl
    cases h
  have hchosen : value.chosen?.bind Scheme.ofName? = none := by simpa [told?, hnull] using h
  refine Json.refuses_optional hnull (Json.refuses_choice ?_)
  intro name hname
  rw [find?_schemes, Option.bind_eq_none_iff.mp hchosen name hname]
  rfl

theorem readsBack_altered (k : Keystore) (start : String) {value : Json} {scheme : Option Scheme}
    (h : Json.ReadsBack readTold value scheme) :
    Json.ReadsBack readDocument (k.altered start (some value)) (k.rewritten start scheme) := by
  apply Json.readsBack_record
  refine .field rfl rfl (readsBack_wordField "version" "u32" UInt32.ofNat UInt32.ofNat_toNat
    k.version.toNat_lt (by decide) (fun n (k : Keystore) => { k with version := n }) _) ?_
  refine .field rfl rfl (Json.readsBack_member "crypto"
    (fun c (k : Keystore) => { k with crypto := c }) _ (readsBack_sealed _)) ?_
  exact .field rfl rfl (Json.readsBack_member "keyType"
    (fun s (k : Keystore) => { k with scheme := s }) _ h) (.done rfl)

theorem refuses_altered (k : Keystore) (start : String) {value : Json}
    (h : Json.Refuses readTold value) :
    Json.Refuses readDocument (k.altered start (some value)) := by
  apply Json.refuses_record
  refine .field rfl rfl (readsBack_wordField "version" "u32" UInt32.ofNat UInt32.ofNat_toNat
    k.version.toNat_lt (by decide) (fun n (k : Keystore) => { k with version := n }) _) ?_
  refine .field rfl rfl (Json.readsBack_member "crypto"
    (fun c (k : Keystore) => { k with crypto := c }) _ (readsBack_sealed _)) ?_
  exact .value rfl rfl (Json.refuses_member "keyType"
    (fun s (k : Keystore) => { k with scheme := s }) _ h)

/-- A document that tells a scheme is opened as the document of that scheme. -/
theorem openBytes_altered (k : Keystore) (start passphrase : String) {keyType : Option Json}
    {told : Scheme} (h : told? keyType = some told) :
    ∃ scheme : Option Scheme, scheme.getD .ed25519 = told ∧
      openBytes (Bytes.ofString (k.altered start keyType).compact) passphrase =
        (k.rewritten start scheme).decrypt passphrase := by
  cases keyType with
  | none =>
    cases h
    exact ⟨none, rfl, openBytes_text _ passphrase⟩
  | some value =>
    obtain ⟨scheme, htold, hvalue⟩ := readsBack_told h
    have hread := Json.readWhole_compact (readsBack_altered k start hvalue)
    refine ⟨scheme, htold, ?_⟩
    rw [openBytes, Bytes.toString?_ofString]
    simp only [openText, parse, hread]
    rfl

/-- A document that tells no scheme that is known is not read. -/
theorem openBytes_altered_of_untold (k : Keystore) (start passphrase : String)
    {keyType : Option Json} (h : told? keyType = none) :
    ∃ reason, openBytes (Bytes.ofString (k.altered start keyType).compact) passphrase =
      .error (.malformed reason) := by
  cases keyType with
  | none => cases h
  | some value =>
    obtain ⟨fault, hread⟩ := Json.readWhole_of_refuses (refuses_altered k start (refuses_untold h))
    have hopened : openBytes (Bytes.ofString (k.altered start (some value)).compact) passphrase =
        .error (.malformed
          (.unreadable (fault.message (k.altered start (some value)).compact.toList))) := by
      rw [openBytes, Bytes.toString?_ofString]
      simp only [openText, parse, hread]
      rfl
    exact ⟨_, hopened⟩

/-! ## Deciphering -/

section

variable (key : PrivateKey) (passphrase : String) (rounds : UInt32) (salt : Octets 32)
  (start : Octets 16)

/-- What is decrypted from another start value. -/
def exchanged (start' : Octets 16) : Bytes :=
  let cipher := Cipher.aes (keys passphrase salt.bytes rounds).1
  Cipher.counterMode cipher start' (Cipher.counterMode cipher start key.raw)

theorem length_exchanged (start' : Octets 16) :
    (exchanged key passphrase rounds salt start start').length = 32 := by
  rw [exchanged, Cipher.length_counterMode, Cipher.length_counterMode]
  exact key.secret.length_eq

theorem exchanged_eq_iff {start' : Octets 16} :
    exchanged key passphrase rounds salt start start' = key.raw ↔ start' = start := by
  have hlength : 16 ≤ key.raw.length := by
    rw [PrivateKey.raw, key.secret.length_eq]
    decide
  exact Cipher.counterMode_counterMode_eq_iff (Cipher.aes_encrypt_injective _) hlength

/-- An altered document passes all checks, and what is decrypted is read as a key of the scheme that
is told. -/
theorem decrypt_rewritten (hrounds : rounds ≠ 0) {text : String} {start' : Octets 16}
    (htext : Hex.decode? text = some start'.bytes) (scheme : Option Scheme) :
    ((encrypt key passphrase rounds salt start).rewritten text scheme).decrypt passphrase =
      ofPlain (scheme.getD .ed25519) (exchanged key passphrase rounds salt start start') := by
  have hchecks : ∀ c ∈ checks ((encrypt key passphrase rounds salt start).rewritten text scheme)
      passphrase, c.holds = true := by
    simp [checks, formChecks, nameChecks, byteChecks, hexCheck, macCheck, rightMac, stretched,
      bytesOf, rewritten, encrypt, keys, tag, hrounds, htext, start'.length_eq]
  have hdecrypted : decrypted ((encrypt key passphrase rounds salt start).rewritten text scheme)
      passphrase = exchanged key passphrase rounds salt start start' := by
    simp [decrypted, startOf, stretched, bytesOf, rewritten, encrypt, keys, exchanged, htext]
  rw [decrypt_of_holds hchecks, hdecrypted]
  rfl

theorem openBytes_altered_encrypt (hrounds : rounds ≠ 0) {text : String} {start' : Octets 16}
    (htext : Hex.decode? text = some start'.bytes) {keyType : Option Json} {told : Scheme}
    (htold : told? keyType = some told) :
    openBytes (Bytes.ofString
      ((encrypt key passphrase rounds salt start).altered text keyType).compact) passphrase =
        ofPlain told (exchanged key passphrase rounds salt start start') := by
  obtain ⟨scheme, rfl, hopen⟩ :=
    openBytes_altered (encrypt key passphrase rounds salt start) text passphrase htold
  rw [hopen, decrypt_rewritten key passphrase rounds salt start hrounds htext]

end

/-! ## Bare keys of a scheme -/

theorem ofPlain_ed25519 {plain : Bytes} (h : plain.length = 32) :
    ofPlain .ed25519 plain = .ok (.ofSeed ⟨plain, h⟩) :=
  congrArg (Except.mapError KeystoreError.key) (PrivateKey.ofBytesEd25519_seed ⟨plain, h⟩)

/-- Bare bytes are the secret of an ECDSA key if they are in its range. -/
theorem ofPlain_ecdsa {plain : Bytes} (h : plain.length = 32) :
    (∃ secret, ofPlain .ecdsa plain = .ok (.ecdsa secret) ∧ secret.toOctets.bytes = plain) ∨
      ofPlain .ecdsa plain = .error (.key (.invalid .ecdsa)) := by
  simp only [ofPlain, PrivateKey.ofBytesEcdsa, if_pos h, PrivateKey.ofEcdsaSecret]
  cases hsecret : Ecdsa.Secret.ofBytes? plain with
  | some secret => exact .inl ⟨secret, rfl, Ecdsa.Secret.toOctets_of_ofBytes? hsecret⟩
  | none => exact .inr rfl

/-- Bare bytes that are read are the secret of a key of the scheme. -/
theorem ofPlain_eq_ok {scheme : Scheme} {plain : Bytes} (hlength : plain.length = 32)
    {found : PrivateKey} (h : ofPlain scheme plain = .ok found) :
    found.scheme = scheme ∧ found.raw = plain := by
  cases scheme with
  | ed25519 =>
    rw [ofPlain_ed25519 hlength] at h
    cases h
    exact ⟨rfl, rfl⟩
  | ecdsa =>
    obtain ⟨secret, hread, hbytes⟩ | hread := ofPlain_ecdsa hlength
    · rw [hread] at h
      cases h
      exact ⟨rfl, hbytes⟩
    · rw [hread] at h
      cases h

theorem ofPlain_eq_error {scheme : Scheme} {plain : Bytes} (hlength : plain.length = 32)
    {e : KeystoreError} (h : ofPlain scheme plain = .error e) :
    scheme = .ecdsa ∧ e = .key (.invalid .ecdsa) := by
  cases scheme with
  | ed25519 =>
    rw [ofPlain_ed25519 hlength] at h
    cases h
  | ecdsa =>
    obtain ⟨secret, hread, _⟩ | hread := ofPlain_ecdsa hlength
    · rw [hread] at h
      cases h
    · rw [hread] at h
      exact ⟨rfl, (Except.error.inj h).symm⟩

/-! ## What altered documents give -/

theorem raw_eq_iff {k k' : PrivateKey} : k.raw = k'.raw ↔ k.secret = k'.secret :=
  Octets.ext_iff.symm

/-- An altered document that tells no scheme that is known is not read. Any other is opened under
its passphrase, or it tells the scheme of ECDSA keys and the bytes are no such key. The key is of
the scheme that is told, and it has the secret of the key that was encrypted if and only if the
start value is that of the encryption. So the key comes back if neither is another one. -/
theorem altered_restores_iff (key : PrivateKey) (passphrase : String) (rounds : UInt32)
    (salt : Octets 32) (start start' : Octets 16) (startText : String) (keyType : Option Json)
    (hrounds : rounds ≠ 0) (hstart : Hex.decode? startText = some start'.bytes) :
    let document := ((encrypt key passphrase rounds salt start).altered startText keyType).compact
    let opened := openBytes (Bytes.ofString document) passphrase
    (told? keyType = none → ∃ reason, opened = .error (.malformed reason)) ∧
    ∀ told, told? keyType = some told →
      (∀ e, opened = .error e → told = .ecdsa ∧ e = .key (.invalid .ecdsa)) ∧
      (∀ found, opened = .ok found →
        found.scheme = told ∧ (found.secret = key.secret ↔ start' = start)) ∧
      (start' = start → told = key.scheme → ∃ found, opened = .ok found ∧
        found.scheme = key.scheme ∧ found.secret = key.secret) := by
  intro document opened
  refine ⟨openBytes_altered_of_untold _ startText passphrase, ?_⟩
  intro told htold
  have hopened : opened = ofPlain told (exchanged key passphrase rounds salt start start') :=
    openBytes_altered_encrypt key passphrase rounds salt start hrounds hstart htold
  have hlength := length_exchanged key passphrase rounds salt start start'
  have hsecret : exchanged key passphrase rounds salt start start' = key.raw ↔ start' = start :=
    exchanged_eq_iff key passphrase rounds salt start
  rw [hopened]
  refine ⟨?fails, ?opens, ?unaltered⟩
  case fails => exact fun e => ofPlain_eq_error hlength
  case opens =>
    intro found hfound
    obtain ⟨hscheme, hraw⟩ := ofPlain_eq_ok hlength hfound
    rw [← raw_eq_iff, hraw]
    exact ⟨hscheme, hsecret⟩
  case unaltered =>
    intro hstart htold
    rw [hsecret.mpr hstart, htold, ofPlain_raw]
    exact ⟨key.bare, rfl, key.scheme_bare, key.secret_bare⟩

/-- Another start value, in capital letters, and the other scheme. -/
theorem altered_restores_iff_ecdsa :
    let start := Octets.ofNatBE 16 10
    let start' := Octets.ofNatBE 16 11
    let key := PrivateKey.ofSeed (Octets.ofNatBE 32 7)
    let startText := "0000000000000000000000000000000B"
    let document := ((encrypt key "passphrase" 1 (Octets.ofNatBE 32 9) start).altered startText
      (some (.string "ecdsa"))).compact
    let opened := openBytes (Bytes.ofString document) "passphrase"
    (1 : UInt32) ≠ 0 ∧ Hex.decode? startText = some start'.bytes ∧
      (∀ e, opened = .error e → e = .key (.invalid .ecdsa)) ∧
      ∀ found, opened = .ok found → found.scheme = .ecdsa ∧ found.secret ≠ key.secret := by
  intro start start' key startText document opened
  have hrounds : (1 : UInt32) ≠ 0 := by decide
  have hstart : Hex.decode? startText = some start'.bytes := by decide
  have hother : start' ≠ start := by decide
  obtain ⟨_, htold⟩ := altered_restores_iff key "passphrase" 1 (Octets.ofNatBE 32 9) start start'
    startText (some (.string "ecdsa")) hrounds hstart
  obtain ⟨hfails, hopens, _⟩ := htold .ecdsa rfl
  refine ⟨hrounds, hstart, fun e he => (hfails e he).2, ?_⟩
  intro found hfound
  obtain ⟨hscheme, hsecret⟩ := hopens found hfound
  exact ⟨hscheme, fun hsame => hother (hsecret.mp hsame)⟩

/-! ## Keys that were not encrypted -/

/-- With another start value a document that tells Ed25519 opens as another key. -/
theorem not_failsOrRestores_altered (key : PrivateKey) (passphrase : String) {rounds : UInt32}
    (salt : Octets 32) {start start' : Octets 16} {startText : String} (hrounds : rounds ≠ 0)
    (hstart : Hex.decode? startText = some start'.bytes) (hother : start' ≠ start) :
    let document := (encrypt key passphrase rounds salt start).altered startText
      (some (.string "ed25519"))
    ¬ FailsOrRestores document.compact passphrase key := by
  intro document hrestores
  have hlength := length_exchanged key passphrase rounds salt start start'
  have htold : told? (some (.string "ed25519")) = some .ed25519 := rfl
  have hopened := openBytes_altered_encrypt key passphrase rounds salt start hrounds hstart htold
  rw [ofPlain_ed25519 hlength] at hopened
  have hsecret := raw_eq_iff.mpr (hrestores _ hopened).2
  exact hother ((exchanged_eq_iff key passphrase rounds salt start).mp hsecret)

/-- The document of a key whose start value was replaced opens as a key that nobody encrypted. -/
theorem not_failsOrRestores_nextStart :
    let key := PrivateKey.ofSeed (Octets.ofNatBE 32 7)
    let written := encrypt key "passphrase" 1 (Octets.ofNatBE 32 9) (Octets.ofNatBE 16 10)
    let document := written.altered "0000000000000000000000000000000b" (some (.string "ed25519"))
    ¬ FailsOrRestores document.compact "passphrase" key := by
  intro key written document
  have hstart : Hex.decode? "0000000000000000000000000000000b" =
      some (Octets.ofNatBE 16 11).bytes := by decide
  exact not_failsOrRestores_altered _ "passphrase" (Octets.ofNatBE 32 9) (by decide) hstart
    (by decide)

end Keystore

end HbarKit
