import HbarKit.Proofs.Curve.Compression
import HbarKit.Proofs.Except
import HbarKit.Proofs.Key.Bare
import HbarKit.Proofs.Key.Documents
import HbarKit.Proofs.Key.Spelling
import HbarKit.Proofs.Wire.RoundTrip
import HbarKit.Wire.Message

/-!
# Reading keys back

Whatever is written for a key is read as the key, wherever it is admitted. For private keys that is
so except for the chain code, which is not written. Public keys are read back if they are valid, and
every key that was read is valid: a point that was read in any of its forms is on the curve, and its
compressed form leads to itself.
-/
namespace HbarKit

open KeyDocument (Spells)

/-! ## Private keys -/

namespace PrivateKey

/-- The reader of bytes for a scheme. -/
def ofBytesIn : Scheme → Bytes → Except KeyError PrivateKey
  | .ed25519 => ofBytesEd25519
  | .ecdsa => ofBytesEcdsa

/-- The reader of texts for a scheme. -/
def parseIn : Scheme → String → Except KeyError PrivateKey
  | .ed25519 => parseEd25519
  | .ecdsa => parseEcdsa

theorem parse_of_spells {s : String} {b : Bytes} (h : Spells s.toList b) : parse s = ofBytes b :=
  KeyDocument.ofText_bind_of_spells h ofBytes

theorem parseIn_of_spells {s : String} {b : Bytes} (h : Spells s.toList b) (scheme : Scheme) :
    parseIn scheme s = ofBytesIn scheme b := by
  cases scheme with
  | ed25519 => exact KeyDocument.ofText_bind_of_spells h ofBytesEd25519
  | ecdsa => exact KeyDocument.ofText_bind_of_spells h ofBytesEcdsa

theorem length_raw (k : PrivateKey) : k.raw.length = 32 := k.secret.length_eq

theorem length_der (k : PrivateKey) : k.der.length = 48 ∨ k.der.length = 50 := by
  have hraw := k.length_raw
  cases k with
  | ed25519 seed chainCode => exact .inl (by simp [der, scheme, KeyDocument.privateHeader, hraw])
  | ecdsa secret => exact .inr (by simp [der, scheme, KeyDocument.privateHeader, hraw])

theorem ofDer_der (k : PrivateKey) : ofDer k.der = .ok k.bare := by
  refine bind_eq_ok.mpr ⟨_, KeyDocument.readPrivate_header k.scheme k.length_raw, ?_⟩
  simp only [raw, Octets.ofBytes?_bytes]
  cases k with
  | ed25519 seed chainCode => rfl
  | ecdsa secret =>
    simp only [scheme, PrivateKey.secret, ofEcdsaSecret, Ecdsa.Secret.ofBytes?_toOctets]
    rfl

/-- No document has the length of a bare key. -/
theorem ofBytes_der (k : PrivateKey) : ofBytes k.der = .ok k.bare := by
  have hlength := k.length_der
  rw [ofBytes, if_neg (by omega), ofDer_der]

/-- A document is read for any scheme, and then its scheme has to be the one that is expected. -/
theorem ofBytesIn_der (scheme : Scheme) (k : PrivateKey) :
    ofBytesIn scheme k.der = expect scheme k.bare := by
  have hlength := k.length_der
  cases scheme with
  | ed25519 =>
    rw [ofBytesIn, ofBytesEd25519, dif_neg (by omega), ofDer_der]
    rfl
  | ecdsa =>
    rw [ofBytesIn, ofBytesEcdsa, if_neg (by omega), ofDer_der]
    rfl

theorem ofBytesIn_raw (k : PrivateKey) : ofBytesIn k.scheme k.raw = .ok k.bare := by
  cases k with
  | ed25519 seed chainCode => exact ofBytesEd25519_seed seed
  | ecdsa secret => exact ofBytesEcdsa_secret secret

/-- What is written for one key is read as another one, with the same scheme and secret. -/
structure ReadAs (k found : PrivateKey) : Prop where
  scheme : found.scheme = k.scheme
  secret : found.secret = k.secret
  document : ofDer k.der = .ok found
  bytes : ofBytes k.der = .ok found
  display : Spells k.text.toList k.der
  text : ∀ s : String, Spells s.toList k.der → parse s = .ok found
  own : ∀ b, b = k.raw ∨ b = k.der → ofBytesIn k.scheme b = .ok found
  ownText : ∀ b, b = k.raw ∨ b = k.der →
    ∀ s : String, Spells s.toList b → parseIn k.scheme s = .ok found
  other : ∀ scheme, scheme ≠ k.scheme → ofBytesIn scheme k.der = .error (.mismatch scheme k.scheme)
  otherText : ∀ scheme, scheme ≠ k.scheme → ∀ s : String, Spells s.toList k.der →
    parseIn scheme s = .error (.mismatch scheme k.scheme)

theorem readAs_bare (k : PrivateKey) : k.ReadAs k.bare := by
  have hown : ∀ b, b = k.raw ∨ b = k.der → ofBytesIn k.scheme b = .ok k.bare := by
    rintro b (rfl | rfl)
    · exact ofBytesIn_raw k
    · rw [ofBytesIn_der, expect, if_pos k.scheme_bare]
  have hother : ∀ scheme, scheme ≠ k.scheme →
      ofBytesIn scheme k.der = .error (.mismatch scheme k.scheme) := by
    intro scheme hne
    rw [ofBytesIn_der, expect, scheme_bare, if_neg hne.symm]
  exact {
    scheme := k.scheme_bare
    secret := k.secret_bare
    document := ofDer_der k
    bytes := ofBytes_der k
    display := KeyDocument.spells_encode k.der
    text := fun s hs => (parse_of_spells hs).trans (ofBytes_der k)
    own := hown
    ownText := fun b hb s hs => (parseIn_of_spells hs _).trans (hown b hb)
    other := hother
    otherText := fun scheme hne s hs => (parseIn_of_spells hs _).trans (hother scheme hne) }

end PrivateKey

/-! ## Public keys -/

namespace PublicKey

/-- Keys that are read back: bytes that are a point of Ed25519, and the compressed form of a point
of secp256k1 that leads to itself. -/
inductive Valid : PublicKey → Prop
  | ed25519 {point : Octets 32} (h : (Edwards.Point.decode? point).isSome = true) :
      Valid (.ed25519 point)
  | ecdsa {point : Octets 33} {p : Secp256k1.AffinePoint}
      (hread : Secp256k1.AffinePoint.decode? point.bytes = some p) (h : p.compressed = point) :
      Valid (.ecdsa point)

theorem valid_of_ofEd25519Point {point : Octets 32} {k : PublicKey}
    (h : ofEd25519Point point = .ok k) : k.Valid := by
  unfold ofEd25519Point at h
  split at h
  · rename_i hpoint
    cases h
    exact .ed25519 hpoint
  · cases h

/-- A point in any written form is on the curve, so its compressed form leads to it. -/
theorem valid_of_ofEcdsaPoint {b : Bytes} {k : PublicKey} (h : ofEcdsaPoint b = .ok k) :
    k.Valid := by
  unfold ofEcdsaPoint at h
  split at h
  · rename_i p hp
    cases h
    have hcurve := Secp256k1.AffinePoint.onCurve_of_decode? hp
    obtain ⟨q, hq, hsame⟩ := Secp256k1.AffinePoint.decode?_compressed hcurve
    exact .ecdsa hq hsame
  · cases h

theorem valid_of_ofDer {b : Bytes} {k : PublicKey} (h : ofDer b = .ok k) : k.Valid := by
  obtain ⟨⟨scheme, raw⟩, -, h⟩ := bind_eq_ok.mp h
  cases scheme with
  | ed25519 =>
    simp only at h
    split at h
    · exact valid_of_ofEd25519Point h
    · cases h
  | ecdsa =>
    simp only at h
    split at h
    · exact valid_of_ofEcdsaPoint h
    · cases h

theorem valid_of_expect {scheme : Scheme} {b : Bytes} {k : PublicKey}
    (h : (do expect scheme (← ofDer b)) = .ok k) : k.Valid := by
  obtain ⟨found, hfound, h⟩ := bind_eq_ok.mp h
  unfold expect at h
  split at h
  · cases h
    exact valid_of_ofDer hfound
  · cases h

theorem valid_of_ofBytesEd25519 {b : Bytes} {k : PublicKey} (h : ofBytesEd25519 b = .ok k) :
    k.Valid := by
  unfold ofBytesEd25519 at h
  split at h
  · exact valid_of_ofEd25519Point h
  · exact valid_of_expect h

theorem valid_of_ofBytesEcdsa {b : Bytes} {k : PublicKey} (h : ofBytesEcdsa b = .ok k) :
    k.Valid := by
  unfold ofBytesEcdsa at h
  split at h
  · exact valid_of_ofEcdsaPoint h
  · exact valid_of_expect h

theorem valid_of_ofBytes {b : Bytes} {k : PublicKey} (h : ofBytes b = .ok k) : k.Valid := by
  unfold ofBytes at h
  split at h
  · exact valid_of_ofBytesEd25519 h
  · split at h
    · exact valid_of_ofBytesEcdsa h
    · exact valid_of_ofDer h

theorem valid_of_parse {s : String} {k : PublicKey} (h : parse s = .ok k) : k.Valid := by
  obtain ⟨b, -, h⟩ := bind_eq_ok.mp h
  exact valid_of_ofBytes h

/-- Keys that some reader gave. -/
inductive Read (k : PublicKey) : Prop
  | bytes {b : Bytes} (h : ofBytes b = .ok k)
  | bytesEd25519 {b : Bytes} (h : ofBytesEd25519 b = .ok k)
  | bytesEcdsa {b : Bytes} (h : ofBytesEcdsa b = .ok k)
  | document {b : Bytes} (h : ofDer b = .ok k)
  | text {s : String} (h : parse s = .ok k)
  | textEd25519 {s : String} (h : parseEd25519 s = .ok k)
  | textEcdsa {s : String} (h : parseEcdsa s = .ok k)
  | wire {b rest : Bytes} (h : Wire.publicKey.read b = some (k, rest))
  | json {j : Json} (h : Wire.publicKey.ofJson j = some k)

theorem Read.valid {k : PublicKey} (h : k.Read) : k.Valid := by
  have htoOption : ∀ s : String, (parse s).toOption = some k → k.Valid := by
    intro s hs
    cases hparse : parse s with
    | error e =>
      rw [hparse] at hs
      cases hs
    | ok found =>
      rw [hparse] at hs
      cases hs
      exact valid_of_parse hparse
  cases h with
  | bytes h => exact valid_of_ofBytes h
  | bytesEd25519 h => exact valid_of_ofBytesEd25519 h
  | bytesEcdsa h => exact valid_of_ofBytesEcdsa h
  | document h => exact valid_of_ofDer h
  | text h => exact valid_of_parse h
  | textEd25519 h =>
    obtain ⟨b, -, h⟩ := bind_eq_ok.mp h
    exact valid_of_ofBytesEd25519 h
  | textEcdsa h =>
    obtain ⟨b, -, h⟩ := bind_eq_ok.mp h
    exact valid_of_ofBytesEcdsa h
  | wire h =>
    obtain ⟨⟨s, rest⟩, -, h⟩ := Option.bind_eq_some_iff.mp h
    obtain ⟨found, hfound, h⟩ := Option.bind_eq_some_iff.mp h
    cases h
    exact htoOption s hfound
  | json h =>
    obtain ⟨s, -, h⟩ := Option.bind_eq_some_iff.mp h
    exact htoOption s h

/-! ### Written keys -/

theorem length_raw (k : PublicKey) : k.raw.length = KeyDocument.pointLength k.scheme := by
  cases k with
  | ed25519 point => exact point.length_eq
  | ecdsa point => exact point.length_eq

theorem length_der (k : PublicKey) : k.der.length = 44 ∨ k.der.length = 49 := by
  have hraw := k.length_raw
  cases k with
  | ed25519 point =>
    exact .inl (by simp [der, scheme, KeyDocument.publicHeader, hraw, KeyDocument.pointLength])
  | ecdsa point =>
    exact .inr (by simp [der, scheme, KeyDocument.publicHeader, hraw, KeyDocument.pointLength])

variable {k : PublicKey}

theorem Valid.ofBytes_raw (h : k.Valid) : ofBytes k.raw = .ok k := by
  cases h with
  | @ed25519 point h =>
    have hlength : point.bytes.length = 32 := point.length_eq
    simp [raw, ofBytes, ofBytesEd25519, ofEd25519Point, hlength, h]
  | @ecdsa point p hread h =>
    have hlength : point.bytes.length = 33 := point.length_eq
    simp [raw, ofBytes, ofBytesEcdsa, ofEcdsaPoint, hlength, hread, ofPoint, h]

theorem Valid.ofDer_der (h : k.Valid) : ofDer k.der = .ok k := by
  refine bind_eq_ok.mpr ⟨_, KeyDocument.readPublic_header k.scheme k.length_raw, ?_⟩
  cases h with
  | @ed25519 point h => simp [raw, scheme, ofEd25519Point, h]
  | @ecdsa point p hread h =>
    have hlength : point.bytes.length = 33 := point.length_eq
    simp [raw, scheme, ofEcdsaPoint, hlength, hread, ofPoint, h]

theorem Valid.ofBytes_der (h : k.Valid) : ofBytes k.der = .ok k := by
  have hlength := k.length_der
  rw [ofBytes, if_neg (by omega), if_neg (by omega), h.ofDer_der]

theorem Valid.parse_of_spells (h : k.Valid) {s : String} (hs : Spells s.toList k.der) :
    parse s = .ok k :=
  (KeyDocument.ofText_bind_of_spells hs ofBytes).trans h.ofBytes_der

theorem Valid.parse_text (h : k.Valid) : parse k.text = .ok k :=
  h.parse_of_spells (KeyDocument.spells_encode k.der)

/-- The text that messages carry for a key is the one it is shown as. -/
theorem Valid.toOption_parse (h : k.Valid) : (parse k.text).toOption = some k := by
  rw [h.parse_text]
  rfl

theorem Valid.read_write (h : k.Valid) (rest : Bytes) :
    Wire.publicKey.read (Wire.publicKey.write k ++ rest) = some (k, rest) := by
  have hder := k.length_der
  have htext : k.text.toList.length = 2 * k.der.length := Hex.length_encode k.der
  have hbytes := Bytes.length_ofString_le k.text
  have hread := Wire.Form.lawful_textual text (fun s => (parse s).toOption) k rest (by
    simp only [Wire.Form.textual, Wire.Form.text, Wire.Form.bytes, List.length_append,
      Bytes.length_ofNatLE]
    omega)
  simp only [h.toOption_parse] at hread
  exact hread

theorem Valid.ofJson_toJson (h : k.Valid) :
    Wire.publicKey.ofJson (Wire.publicKey.toJson k) = some k :=
  (Wire.Form.ofJson_textual text (fun s => (parse s).toOption) k).trans h.toOption_parse

/-- What is written for a key is read as the key. -/
structure ReadBack (k : PublicKey) : Prop where
  raw : ofBytes k.raw = .ok k
  bytes : ofBytes k.der = .ok k
  document : ofDer k.der = .ok k
  display : Spells k.text.toList k.der
  text : ∀ s : String, Spells s.toList k.der → parse s = .ok k
  wire : ∀ rest, Wire.publicKey.read (Wire.publicKey.write k ++ rest) = some (k, rest)
  json : Wire.publicKey.ofJson (Wire.publicKey.toJson k) = some k

theorem Valid.readBack (h : k.Valid) : k.ReadBack where
  raw := h.ofBytes_raw
  bytes := h.ofBytes_der
  document := h.ofDer_der
  display := KeyDocument.spells_encode k.der
  text := fun _ hs => h.parse_of_spells hs
  wire := h.read_write
  json := h.ofJson_toJson

end PublicKey

/-- Private keys are read back as far as they are written, and public keys that were read once are
read back whole. -/
theorem keys_are_read_back :
    (∀ k : PrivateKey, ∃ found, k.ReadAs found) ∧ ∀ k : PublicKey, k.Read → k.ReadBack :=
  ⟨fun k => ⟨k.bare, k.readAs_bare⟩, fun _ h => h.valid.readBack⟩

/-- The base point of secp256k1 given by its first coordinate alone. -/
theorem keys_are_read_back_base : ∃ k : PublicKey,
    PublicKey.ofBytes (0x05 :: Bytes.ofNatBE 32 Secp256k1.Point.base.x) = .ok k ∧ k.ReadBack := by
  have hok : (PublicKey.ofBytes (0x05 :: Bytes.ofNatBE 32 Secp256k1.Point.base.x)).isOk = true := by
    decide +kernel
  cases hk : PublicKey.ofBytes (0x05 :: Bytes.ofNatBE 32 Secp256k1.Point.base.x) with
  | error e =>
    rw [hk] at hok
    cases hok
  | ok k => exact ⟨k, rfl, keys_are_read_back.2 k (.bytes hk)⟩

end HbarKit
