import HbarKit.Key.Document
import HbarKit.Proofs.Der.Encoding

/-!
# Compact documents

The fixed header of a compact document and the bare key behind it are elements in distinguished
encoding, and the document is read as the scheme and the bare key it was made of.
-/
namespace HbarKit.KeyDocument

/-- The identifier that stands in the compact documents of a scheme. -/
def schemeOid : Scheme → Der.Oid
  | .ed25519 => ed25519Oid
  | .ecdsa => secp256k1Oid

theorem takes_schemeAlgorithm (s : Scheme) (rest : Bytes) :
    Der.Takes Der.algorithm (Der.encode 0x30 (Der.encode 0x06 (schemeOid s))) rest
      ⟨schemeOid s, none⟩ := by
  cases s <;> exact Der.takes_algorithm (by decide) (by decide)

/-! ## Private keys -/

theorem privateHeader_append (s : Scheme) {raw : Bytes} (h : raw.length = 32) :
    privateHeader s ++ raw =
      Der.encode 0x30 (Der.encode 0x02 [0] ++ (Der.encode 0x30 (Der.encode 0x06 (schemeOid s)) ++
        Der.encode 0x04 (Der.encode 0x04 raw))) := by
  have hsecret : Der.encode 0x04 (Der.encode 0x04 raw) = 0x04 :: 0x22 :: 0x04 :: 0x20 :: raw := by
    simp [Der.encode, Der.encodeLength, h]
  rw [hsecret]
  cases s <;>
    simp [privateHeader, schemeOid, ed25519Oid, secp256k1Oid, Der.encode, Der.encodeLength, h]

theorem takes_privateInfo (s : Scheme) {raw : Bytes} (h : raw.length = 32) :
    Der.Takes privateInfo (privateHeader s ++ raw) []
      ⟨⟨schemeOid s, none⟩, Der.encode 0x04 raw⟩ := by
  have hsecret : (Der.encode 0x04 raw).length = 34 := by
    simp [Der.encode, Der.encodeLength, h]
  rw [privateHeader_append s h]
  refine Der.Takes.tagged ?_ (by decide) ?_
  · apply (Der.takes_unsigned (b := [0]) rfl (by decide) (by decide)).bind
    apply Der.Takes.unless (by decide)
    apply (takes_schemeAlgorithm s _).bind
    apply (Der.takes_octetString (by omega)).last
    -- Neither a public key nor any other field follows.
    apply (Der.takes_field_nil _ _).last
    apply Der.Takes.unless (by simp [Bytes.toNatBE])
    apply Der.takes_anyFields_nil.last
    exact Der.takes_pure _
  · cases s <;> simp [schemeOid, ed25519Oid, secp256k1Oid, Der.encode, Der.encodeLength, h]

/-- The compact document of a private key is read as the key. -/
theorem readPrivate_header (s : Scheme) {raw : Bytes} (h : raw.length = 32) :
    readPrivate (privateHeader s ++ raw) = .ok (s, raw) := by
  have hinner : innerSecret (Der.encode 0x04 raw) = .ok raw := by
    have hsecret : Der.Takes Der.octetString (Der.encode 0x04 raw) [] raw :=
      Der.takes_octetString (by omega)
    rw [innerSecret, hsecret.whole?]
  rw [readPrivate, (takes_privateInfo s h).whole?]
  cases s <;> simp [schemeOid, ed25519Oid, secp256k1Oid, hinner]

/-! ## Public keys -/

/-- How many bytes the bare public keys of a scheme have. -/
def pointLength : Scheme → Nat
  | .ed25519 => 32
  | .ecdsa => 33

/-- What stands in the bit string of a compact document. A point of secp256k1 is a string of bytes
within it. -/
def bitsOfPoint : Scheme → Bytes → Bytes
  | .ed25519, raw => raw
  | .ecdsa, raw => Der.encode 0x04 raw

theorem publicHeader_append (s : Scheme) {raw : Bytes} (h : raw.length = pointLength s) :
    publicHeader s ++ raw = Der.encode 0x30 (Der.encode 0x30 (Der.encode 0x06 (schemeOid s)) ++
      Der.encode 0x03 (0 :: bitsOfPoint s raw)) := by
  cases s <;>
    simp [publicHeader, schemeOid, ed25519Oid, secp256k1Oid, bitsOfPoint, Der.encode,
      Der.encodeLength, h, pointLength]

theorem takes_publicInfo (s : Scheme) {raw : Bytes} (h : raw.length = pointLength s) :
    Der.Takes publicInfo (publicHeader s ++ raw) []
      (⟨schemeOid s, none⟩, bitsOfPoint s raw) := by
  have hbits : (bitsOfPoint s raw).length < 65535 := by
    cases s <;> simp [bitsOfPoint, Der.encode, Der.encodeLength, h, pointLength]
  rw [publicHeader_append s h]
  refine Der.Takes.tagged ?_ (by decide) ?_
  · apply (takes_schemeAlgorithm s _).bind
    exact (Der.takes_bitString hbits).last (Der.takes_pure _)
  · cases s <;>
      simp [schemeOid, ed25519Oid, secp256k1Oid, bitsOfPoint, Der.encode, Der.encodeLength, h,
        pointLength]

theorem innerPoint_encode {raw : Bytes} (h : raw.length = 33) :
    innerPoint (Der.encode 0x04 raw) = raw := by
  have hencode : Der.encode 0x04 raw = 0x04 :: 0x21 :: raw := by
    simp [Der.encode, Der.encodeLength, h]
  rw [hencode, innerPoint, if_pos h]

/-- The compact document of a public key is read as the key. -/
theorem readPublic_header (s : Scheme) {raw : Bytes} (h : raw.length = pointLength s) :
    readPublic (publicHeader s ++ raw) = .ok (s, raw) := by
  rw [readPublic, (takes_publicInfo s h).whole?]
  cases s with
  | ed25519 => rfl
  | ecdsa =>
    have hinner := innerPoint_encode h
    simp [schemeOid, ed25519Oid, secp256k1Oid, bitsOfPoint, hinner]

end HbarKit.KeyDocument
