import HbarKit.Keystore.Document
import HbarKit.Proofs.Bytes.Numbers
import HbarKit.Proofs.Json.Record

/-!
# Reading keystore documents back

Every document is read back from its text, whatever its fields hold, and so is one that does not
tell the scheme of its key.
-/
namespace HbarKit.Keystore

open Json (Member ReadsBack readNat)

variable {σ : Type}

theorem readsBack_textField (name value : String) (put : String → σ → σ) (s : σ) :
    ReadsBack ((textField name put).read s) (.string value) (put value s) :=
  Json.readsBack_member name put s (Json.readsBack_string "a string" value)

/-- A number of a machine word. -/
theorem readsBack_wordField {τ : Type} (name kind : String) {n max : Nat} {a : τ} (ofNat : Nat → τ)
    (ha : ofNat n = a) (hn : n < max + 1) (hmax : max < UInt64.size) (put : τ → σ → σ) (s : σ) :
    ReadsBack ((Member.of name (readNat kind max) fun m => put (ofNat m)).read s) (.nat n)
      (put a s) := by
  subst ha
  exact Json.readsBack_member name _ s (Json.readsBack_nat kind (by omega) hmax)

theorem readsBack_scheme (s : Scheme) :
    ReadsBack
      (Json.readOptional (Json.readChoice [("ed25519", Scheme.ed25519), ("ecdsa", .ecdsa)]))
      (.string s.name) (some s) := by
  apply Json.readsBack_optional
  apply Json.readsBack_choice
  cases s <;> rfl

theorem readsBack_params (p : StretchParams) :
    ReadsBack readParams
      (.object [("dkLen", .nat p.derivedLength.toNat), ("salt", .string p.salt),
        ("c", .nat p.rounds.toNat), ("prf", .string p.prf)]) p := by
  apply Json.readsBack_record
  refine .field rfl rfl (readsBack_wordField "dkLen" "usize" UInt64.ofNat UInt64.ofNat_toNat
    p.derivedLength.toNat_lt (by decide)
    (fun n (q : StretchParams) => { q with derivedLength := n }) _) ?_
  refine .field rfl rfl (readsBack_textField "salt" p.salt
    (fun s (q : StretchParams) => { q with salt := s }) _) ?_
  refine .field rfl rfl (readsBack_wordField "c" "u32" UInt32.ofNat UInt32.ofNat_toNat
    p.rounds.toNat_lt (by decide) (fun n (q : StretchParams) => { q with rounds := n }) _) ?_
  refine .field rfl rfl (readsBack_textField "prf" p.prf
    (fun s (q : StretchParams) => { q with prf := s }) _) ?_
  exact .done rfl

theorem readsBack_start (start : String) :
    ReadsBack readStart (.object [("iv", .string start)]) start := by
  apply Json.readsBack_record
  exact .field rfl rfl (readsBack_textField "iv" start (fun s (_ : String) => s) _) (.done rfl)

theorem readsBack_sealed (c : SealedKey) :
    ReadsBack readSealed
      (.object [("ciphertext", .string c.ciphertext),
        ("cipherparams", .object [("iv", .string c.start)]),
        ("cipher", .string c.cipher), ("kdf", .string c.kdf),
        ("kdfparams", .object [("dkLen", .nat c.kdfParams.derivedLength.toNat),
          ("salt", .string c.kdfParams.salt), ("c", .nat c.kdfParams.rounds.toNat),
          ("prf", .string c.kdfParams.prf)]),
        ("mac", .string c.mac)]) c := by
  apply Json.readsBack_record
  refine .field rfl rfl (readsBack_textField "ciphertext" c.ciphertext
    (fun s (d : SealedKey) => { d with ciphertext := s }) _) ?_
  refine .field rfl rfl (Json.readsBack_member "cipherparams"
    (fun s (d : SealedKey) => { d with start := s }) _ (readsBack_start c.start)) ?_
  refine .field rfl rfl (readsBack_textField "cipher" c.cipher
    (fun s (d : SealedKey) => { d with cipher := s }) _) ?_
  refine .field rfl rfl (readsBack_textField "kdf" c.kdf
    (fun s (d : SealedKey) => { d with kdf := s }) _) ?_
  refine .field rfl rfl (Json.readsBack_member "kdfparams"
    (fun p (d : SealedKey) => { d with kdfParams := p }) _ (readsBack_params c.kdfParams)) ?_
  refine .field rfl rfl (readsBack_textField "mac" c.mac
    (fun s (d : SealedKey) => { d with mac := s }) _) ?_
  exact .done rfl

/-- A document is read back, whether it tells the scheme of its key or not. -/
theorem readsBack_document (k : Keystore) : ReadsBack readDocument k.toJson k := by
  obtain ⟨version, crypto, scheme⟩ := k
  apply Json.readsBack_record
  refine .field rfl rfl (readsBack_wordField "version" "u32" UInt32.ofNat UInt32.ofNat_toNat
    version.toNat_lt (by decide) (fun n (k : Keystore) => { k with version := n }) _) ?_
  refine .field rfl rfl (Json.readsBack_member "crypto"
    (fun c (k : Keystore) => { k with crypto := c }) _ (readsBack_sealed crypto)) ?_
  -- The scheme is the one field that may be left out.
  cases scheme with
  | none => exact .done rfl
  | some s =>
    refine .field rfl rfl (Json.readsBack_member "keyType"
      (fun s (k : Keystore) => { k with scheme := s }) _ (readsBack_scheme s)) ?_
    exact .done rfl

theorem parse_text (k : Keystore) : parse k.text = .ok k := by
  rw [parse, text, Json.readWhole_compact (readsBack_document k)]
  rfl

/-- What is in the text of a document is what is in the document. -/
theorem openBytes_text (k : Keystore) (passphrase : String) :
    openBytes (Bytes.ofString k.text) passphrase = k.decrypt passphrase := by
  rw [openBytes, Bytes.toString?_ofString]
  simp only [openText, parse_text, bind, Except.bind]

end HbarKit.Keystore
