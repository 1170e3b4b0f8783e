import HbarKit.Keystore.Document
import Mathlib.Tactic

/-!
# Keystores are verified before they are decrypted

Opening a document is a row of checks with one reading behind it. The checks look at what is written
and at what the passphrase is stretched to, never at decrypted bytes, and the last of them compares
the whole tag. Whoever does not know the tag learns the first check that failed and nothing else.
-/
namespace HbarKit.Keystore

variable {α : Type}

/-- A check, and the fault that is reported when it does not hold. -/
structure Check where
  holds : Bool
  fault : KeystoreError

/-- The first check of a row that does not hold. -/
def firstFailing (checks : List Check) : Option Check := checks.find? fun c => !c.holds

/-- What comes of a row of checks with something behind it. -/
def outcome (checks : List Check) (behind : Except KeystoreError α) : Except KeystoreError α :=
  match firstFailing checks with
  | some c => .error c.fault
  | none => behind

/-! ## The checks of a document -/

/-- The names and numbers that have to be known. -/
def nameChecks (k : Keystore) : List Check :=
  let c := k.crypto
  [⟨k.version = knownVersion, .version k.version.toNat⟩,
    ⟨c.cipher = cipherName, .algorithm c.cipher⟩,
    ⟨c.kdf = kdfName, .algorithm c.kdf⟩,
    ⟨c.kdfParams.prf = prfName, .algorithm c.kdfParams.prf⟩,
    ⟨c.kdfParams.derivedLength = 32, .malformed (.keyLength c.kdfParams.derivedLength.toNat)⟩,
    ⟨c.kdfParams.rounds ≠ 0, .malformed .noRounds⟩]

/-- A field has to be hexadecimal. -/
def hexCheck (name value : String) : Check :=
  ⟨(Hex.decode? value).isSome, .malformed (.notHex name)⟩

/-- The bytes of a field, none if it is not hexadecimal. -/
def bytesOf (value : String) : Bytes := (Hex.decode? value).getD []

/-- The fields that have to be byte strings, and the length of the start value. -/
def byteChecks (k : Keystore) : List Check :=
  let c := k.crypto
  [hexCheck "salt" c.kdfParams.salt, hexCheck "iv" c.start, hexCheck "ciphertext" c.ciphertext,
    hexCheck "mac" c.mac,
    ⟨(bytesOf c.start).length = 16, .malformed (.startLength (bytesOf c.start).length)⟩]

/-- The checks of what is written alone. -/
def formChecks (k : Keystore) : List Check := k.nameChecks ++ k.byteChecks

/-- The 32 bytes that a passphrase is stretched to as the document says. -/
def stretched (k : Keystore) (passphrase : String) : Bytes :=
  Hash.pbkdf2 Hash.sha256 (Bytes.ofString passphrase) (bytesOf k.crypto.kdfParams.salt)
    k.crypto.kdfParams.rounds.toNat 32

/-- The whole tag of the stored cipher text under the second half of the stretched passphrase. -/
def rightMac (k : Keystore) (passphrase : String) : Octets 48 :=
  ⟨Hash.hmac Hash.sha384 ((k.stretched passphrase).drop 16) (bytesOf k.crypto.ciphertext), by
    rw [Hash.length_hmac]
    rfl⟩

/-- The stored tag has to be the right one. -/
def macCheck (k : Keystore) (passphrase : String) : Check :=
  ⟨bytesOf k.crypto.mac = (k.rightMac passphrase).bytes, .wrongPassphrase⟩

/-- All checks in their order. -/
def checks (k : Keystore) (passphrase : String) : List Check :=
  k.formChecks ++ [k.macCheck passphrase]

/-- The stored start value, zero if it is none. -/
def startOf (k : Keystore) : Octets 16 :=
  (Octets.ofBytes? 16 (bytesOf k.crypto.start)).getD (Octets.ofNatBE 16 0)

/-- The stored cipher text decrypted under the first half of the stretched passphrase. -/
def decrypted (k : Keystore) (passphrase : String) : Bytes :=
  Cipher.counterMode (Cipher.aes ((k.stretched passphrase).take 16)) k.startOf
    (bytesOf k.crypto.ciphertext)

/-! ## Rows of checks -/

theorem outcome_nil (behind : Except KeystoreError α) : outcome [] behind = behind := rfl

theorem outcome_cons (c : Check) (cs : List Check) (behind : Except KeystoreError α) :
    outcome (c :: cs) behind = if c.holds then outcome cs behind else .error c.fault := by
  cases h : c.holds <;> simp [outcome, firstFailing, h]

theorem outcome_decide (p : Prop) [Decidable p] (fault : KeystoreError) (cs : List Check)
    (behind : Except KeystoreError α) :
    outcome (⟨p, fault⟩ :: cs) behind = if p then outcome cs behind else .error fault := by
  simp [outcome_cons]

theorem outcome_append (cs ds : List Check) (behind : Except KeystoreError α) :
    outcome (cs ++ ds) behind = outcome cs (outcome ds behind) := by
  induction cs with
  | nil => rfl
  | cons c cs ih => rw [List.cons_append, outcome_cons, outcome_cons, ih]

theorem firstFailing_eq_none {cs : List Check} :
    firstFailing cs = none ↔ ∀ c ∈ cs, c.holds = true := by
  simp [firstFailing]

theorem outcome_bind {β : Type} (cs : List Check) (x : Except KeystoreError α)
    (f : α → Except KeystoreError β) : (outcome cs x >>= f) = outcome cs (x >>= f) := by
  unfold outcome
  cases firstFailing cs <;> rfl

/-! ## Opening as a row of checks -/

theorem checkForm_eq (k : Keystore) : k.checkForm = outcome k.nameChecks (pure ()) := by
  simp only [checkForm, nameChecks, outcome_decide, outcome_nil, ne_eq, ite_not]
  rfl

theorem field_eq (name value : String) :
    field name value = outcome [hexCheck name value] (pure (bytesOf value)) := by
  simp only [field, hexCheck, bytesOf, outcome_cons, outcome_nil]
  cases Hex.decode? value <;> simp [pure, Except.pure]

theorem contents_eq (k : Keystore) :
    k.contents = outcome k.byteChecks (pure ⟨bytesOf k.crypto.kdfParams.salt, k.startOf,
      bytesOf k.crypto.ciphertext, bytesOf k.crypto.mac⟩) := by
  simp only [contents, field_eq, outcome_bind, pure_bind]
  simp only [byteChecks, outcome_cons, outcome_nil]
  -- The length of the start value is looked at when all fields have been decoded.
  by_cases hstart : (bytesOf k.crypto.start).length = 16
  · simp [startOf, Octets.ofBytes?, hstart]
  · simp [Octets.ofBytes?, hstart, throw, throwThe, MonadExceptOf.throw]

/-- Opening a document comes down to its checks and the reading of what is decrypted. -/
theorem decrypt_eq_outcome (k : Keystore) (passphrase : String) :
    k.decrypt passphrase = outcome (k.checks passphrase)
      (ofPlain (k.scheme.getD .ed25519) (k.decrypted passphrase)) := by
  have hmac : (k.macCheck passphrase).holds = true ↔
      tag (keys passphrase (bytesOf k.crypto.kdfParams.salt) k.crypto.kdfParams.rounds).2
        (bytesOf k.crypto.ciphertext) = bytesOf k.crypto.mac := by
    rw [macCheck, decide_eq_true_iff]
    exact eq_comm
  simp only [decrypt, checkForm_eq, contents_eq, outcome_bind, pure_bind]
  simp only [checks, formChecks, outcome_append, outcome_cons, outcome_nil, hmac]
  rfl

/-! ## What may depend on decrypted bytes -/

/-- All checks of what is written hold. -/
def WellFormed (k : Keystore) : Prop := ∀ c ∈ k.formChecks, c.holds = true

/-- The stored tag is the right one, from its first byte to its last. -/
def HasRightMac (k : Keystore) (passphrase : String) : Prop :=
  Hex.decode? k.crypto.mac = some (k.rightMac passphrase).bytes

/-- The results that tell something about decrypted bytes: a key, or a fault of the key inside. -/
def Reveals (result : Except KeystoreError PrivateKey) : Prop :=
  (∃ key, result = .ok key) ∨ ∃ e, result = .error (.key e)

theorem reveals_ofPlain (scheme : Scheme) (plain : Bytes) : Reveals (ofPlain scheme plain) := by
  unfold ofPlain
  cases scheme with
  | ed25519 =>
    cases PrivateKey.ofBytesEd25519 plain with
    | error e => exact .inr ⟨e, rfl⟩
    | ok key => exact .inl ⟨key, rfl⟩
  | ecdsa =>
    cases PrivateKey.ofBytesEcdsa plain with
    | error e => exact .inr ⟨e, rfl⟩
    | ok key => exact .inl ⟨key, rfl⟩

theorem fault_ne_key (k : Keystore) (passphrase : String) :
    ∀ c ∈ k.checks passphrase, ∀ e, c.fault ≠ .key e := by
  simp [checks, formChecks, nameChecks, byteChecks, hexCheck, macCheck]

theorem hasRightMac_of_holds {k : Keystore} {passphrase : String}
    (h : ∀ c ∈ k.checks passphrase, c.holds = true) : k.HasRightMac passphrase := by
  have hhex : (hexCheck "mac" k.crypto.mac).holds = true :=
    h _ (by simp [checks, formChecks, byteChecks])
  have hmac : (k.macCheck passphrase).holds = true := h _ (by simp [checks])
  obtain ⟨mac, hdecoded⟩ := Option.isSome_iff_exists.mp hhex
  have hright : mac = (k.rightMac passphrase).bytes := by
    simpa [macCheck, bytesOf, hdecoded] using hmac
  rw [HasRightMac, hdecoded, hright]

theorem decrypt_of_failing {k : Keystore} {passphrase : String} {c : Check}
    (h : firstFailing (k.checks passphrase) = some c) :
    k.decrypt passphrase = .error c.fault := by
  rw [decrypt_eq_outcome, outcome, h]

theorem decrypt_of_holds {k : Keystore} {passphrase : String}
    (h : ∀ c ∈ k.checks passphrase, c.holds = true) :
    k.decrypt passphrase = ofPlain (k.scheme.getD .ed25519) (k.decrypted passphrase) := by
  rw [decrypt_eq_outcome, outcome, firstFailing_eq_none.mpr h]

/-- Nothing is told about decrypted bytes before every check holds, and something always then. -/
theorem reveals_decrypt_iff {k : Keystore} {passphrase : String} :
    Reveals (k.decrypt passphrase) ↔ ∀ c ∈ k.checks passphrase, c.holds = true := by
  constructor
  · intro h
    rw [← firstFailing_eq_none]
    cases hfirst : firstFailing (k.checks passphrase) with
    | none => rfl
    | some c =>
      have hfault := fault_ne_key k passphrase c (List.mem_of_find?_eq_some hfirst)
      rw [decrypt_of_failing hfirst] at h
      rcases h with ⟨key, hkey⟩ | ⟨e, he⟩
      · cases hkey
      · exact absurd (Except.error.inj he) (hfault e)
  · intro h
    rw [decrypt_of_holds h]
    exact reveals_ofPlain _ _

/-- With a wrong tag, whatever bytes might have been decrypted make no difference. -/
theorem decrypt_of_wrong_mac {k : Keystore} {passphrase : String}
    (h : ¬ k.HasRightMac passphrase) (behind : Except KeystoreError PrivateKey) :
    k.decrypt passphrase = outcome (k.checks passphrase) behind := by
  cases hfirst : firstFailing (k.checks passphrase) with
  | none => exact absurd (hasRightMac_of_holds (firstFailing_eq_none.mp hfirst)) h
  | some c => rw [decrypt_of_failing hfirst, outcome, hfirst]

/-- A document that is well formed but for its tag is refused for its tag. -/
theorem decrypt_of_wellFormed {k : Keystore} {passphrase : String} (hform : k.WellFormed)
    (h : ¬ k.HasRightMac passphrase) : k.decrypt passphrase = .error .wrongPassphrase := by
  have hmac : (k.macCheck passphrase).holds = false := by
    by_contra hholds
    apply h
    apply hasRightMac_of_holds
    intro c hc
    rcases List.mem_append.mp hc with hc | hc
    · exact hform c hc
    · rw [List.mem_singleton.mp hc]
      simpa using hholds
  rw [decrypt_eq_outcome, checks, outcome_append, outcome, firstFailing_eq_none.mpr hform]
  simp only [outcome_cons, hmac, Bool.false_eq_true, ↓reduceIte]
  rfl

/-- Under a wrong tag neither a key nor a fault of one is given. -/
theorem not_reveals_of_wrong_mac {k : Keystore} {passphrase : String}
    (h : ¬ k.HasRightMac passphrase) : ¬ Reveals (k.decrypt passphrase) := by
  intro hreveals
  exact h (hasRightMac_of_holds (reveals_decrypt_iff.mp hreveals))

/-- A tag that is not of the length of a whole one is wrong. -/
theorem not_hasRightMac_of_length {k : Keystore} {mac : Bytes} (passphrase : String)
    (hdecoded : Hex.decode? k.crypto.mac = some mac) (hlength : mac.length ≠ 48) :
    ¬ k.HasRightMac passphrase := by
  intro h
  rw [HasRightMac, hdecoded] at h
  rw [Option.some.inj h, (k.rightMac passphrase).length_eq] at hlength
  exact hlength rfl

/-- Opening reports the first check that fails, and gives a key, or tells of one, only under the
right tag. All documents that fail for their tag alone are alike, whatever else is in them, and a
tag that is cut short or gone on with is a wrong one. -/
theorem decrypt_verifies_first (k k' : Keystore) (passphrase passphrase' : String) :
    (∀ c, firstFailing (k.checks passphrase) = some c →
      k.decrypt passphrase = .error c.fault) ∧
    (firstFailing (k.checks passphrase) = none →
      k.decrypt passphrase = ofPlain (k.scheme.getD .ed25519) (k.decrypted passphrase)) ∧
    (Reveals (k.decrypt passphrase) → k.HasRightMac passphrase) ∧
    (¬ k.HasRightMac passphrase → ∀ plain, k.decrypt passphrase =
      outcome (k.checks passphrase) (ofPlain (k.scheme.getD .ed25519) plain)) ∧
    (k.WellFormed → k'.WellFormed → ¬ k.HasRightMac passphrase → ¬ k'.HasRightMac passphrase' →
      k.decrypt passphrase = k'.decrypt passphrase') ∧
    ∀ mac, Hex.decode? k.crypto.mac = some mac →
      (∃ n < 48, mac = (k.rightMac passphrase).bytes.take n) ∨
        (∃ more, more ≠ [] ∧ mac = (k.rightMac passphrase).bytes ++ more) →
      ¬ Reveals (k.decrypt passphrase) ∧
        (k.WellFormed → k.decrypt passphrase = .error .wrongPassphrase) := by
  refine ⟨?reports, ?reads, ?verified, ?independent, ?alike, ?whole⟩
  case reports => exact fun c => decrypt_of_failing
  case reads => exact fun h => decrypt_of_holds (firstFailing_eq_none.mp h)
  case verified => exact fun h => hasRightMac_of_holds (reveals_decrypt_iff.mp h)
  case independent => exact fun h plain => decrypt_of_wrong_mac h _
  case alike =>
    intro hform hform' hmac hmac'
    rw [decrypt_of_wellFormed hform hmac, decrypt_of_wellFormed hform' hmac']
  case whole =>
    intro mac hdecoded hcut
    have hright : (k.rightMac passphrase).bytes.length = 48 := (k.rightMac passphrase).length_eq
    have hlength : mac.length ≠ 48 := by
      rcases hcut with ⟨n, hn, rfl⟩ | ⟨more, hmore, rfl⟩
      · rw [List.length_take]
        omega
      · have hpos : 0 < more.length := List.length_pos_iff.mpr hmore
        rw [List.length_append]
        omega
    have hwrong := not_hasRightMac_of_length passphrase hdecoded hlength
    exact ⟨not_reveals_of_wrong_mac hwrong, fun hform => decrypt_of_wellFormed hform hwrong⟩

/-- The version is looked at before anything else. -/
example (crypto : SealedKey) (scheme : Option Scheme) (passphrase : String) :
    decrypt ⟨2, crypto, scheme⟩ passphrase = .error (.version 2) := rfl

end HbarKit.Keystore
