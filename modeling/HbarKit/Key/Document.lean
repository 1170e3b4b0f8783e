import HbarKit.Bytes.Hex
import HbarKit.Curve.Ecdsa
import HbarKit.Der.Algorithm
import HbarKit.Key.Scheme
import HbarKit.Text.Blank

/-!
# Key documents

Keys are written in a compact document that is a fixed header and the bare key. What is read may
also be one of the longer documents of other programs: a private key with attributes or with its
public key, and an elliptic curve key whose curve is a parameter of the algorithm.
-/
namespace HbarKit.KeyDocument

/-- The identifier of Ed25519, 1.3.101.112. -/
def ed25519Oid : Der.Oid := [0x2b, 0x65, 0x70]

/-- The identifier of the curve secp256k1, 1.3.132.0.10. -/
def secp256k1Oid : Der.Oid := [0x2b, 0x81, 0x04, 0x00, 0x0a]

/-- The identifier of elliptic curve keys, 1.2.840.10045.2.1. -/
def ellipticOid : Der.Oid := [0x2a, 0x86, 0x48, 0xce, 0x3d, 0x02, 0x01]

def privateHeader : Scheme → Bytes
  | .ed25519 =>
    [0x30, 0x2e, 0x02, 0x01, 0x00, 0x30, 0x05, 0x06, 0x03, 0x2b, 0x65, 0x70, 0x04, 0x22, 0x04, 0x20]
  | .ecdsa =>
    [0x30, 0x30, 0x02, 0x01, 0x00, 0x30, 0x07, 0x06, 0x05, 0x2b, 0x81, 0x04, 0x00, 0x0a, 0x04, 0x22,
      0x04, 0x20]

def publicHeader : Scheme → Bytes
  | .ed25519 => [0x30, 0x2a, 0x30, 0x05, 0x06, 0x03, 0x2b, 0x65, 0x70, 0x03, 0x21, 0x00]
  | .ecdsa =>
    [0x30, 0x2f, 0x30, 0x07, 0x06, 0x05, 0x2b, 0x81, 0x04, 0x00, 0x0a, 0x03, 0x24, 0x00, 0x04, 0x21]

structure PrivateInfo where
  algorithm : Der.Algorithm
  key : Bytes

/-- A private key document. Version 1 and a public key go together, and other fields may follow. -/
def privateInfo : Der.Reader PrivateInfo := Der.sequence do
  let version ← Der.unsigned 1
  if 1 < version then Der.refuse (.value 0x02)
  let algorithm ← Der.algorithm
  let key ← Der.octetString
  let publicKey ← Der.implicitField 1 Der.wholeBitContent
  if (version = 1) ≠ publicKey.isSome then Der.refuse (.value 0x03)
  Der.anyFields
  return ⟨algorithm, key⟩

def publicInfo : Der.Reader (Der.Algorithm × Bytes) := Der.sequence do
  return (← Der.algorithm, ← Der.bitString)

def ellipticKey : Der.Reader (Bytes × Option Bytes) := Der.sequence do
  let version ← Der.unsigned 1
  if version ≠ 1 then Der.refuse (.value 0x02)
  let secret ← Der.octetString
  let _ ← Der.explicitField 0 Der.oid
  let publicKey ← Der.explicitField 1 (Der.tagged 0x03 Der.wholeBitContent)
  return (secret, publicKey)

/-- The secret of an elliptic curve key. It may be short of up to eight leading zeros, and a public
key beside it has to be its own. -/
def ellipticSecret? (document : Bytes) : Option Ecdsa.Secret := do
  let (bytes, publicKey) ← Der.whole? ellipticKey document
  if bytes.length < 24 ∨ 32 < bytes.length then none
  let secret ← Ecdsa.Secret.ofBytes? (List.replicate (32 - bytes.length) 0 ++ bytes)
  match publicKey with
  | none => return secret
  | some given =>
    let point := Ecdsa.publicPoint secret
    if given = point.compressed.bytes ∨ given = point.uncompressed.bytes then return secret
    else none

def checkCurve (a : Der.Algorithm) : Except KeyError Unit :=
  match a.parameterOid? with
  | none => .error (.unsupported (Der.Oid.text a.oid))
  | some curve =>
    if curve = secp256k1Oid then .ok () else .error (.unsupported (Der.Oid.text curve))

def innerSecret (key : Bytes) : Except KeyError Bytes :=
  match Der.whole? Der.octetString key with
  | some secret => .ok secret
  | none => .error (.length key.length)

def readPrivate (document : Bytes) : Except KeyError (Scheme × Bytes) :=
  match Der.whole? privateInfo document with
  | none => .error (.length document.length)
  | some info =>
    if info.algorithm.oid = ed25519Oid then do return (.ed25519, ← innerSecret info.key)
    else if info.algorithm.oid = secp256k1Oid then do return (.ecdsa, ← innerSecret info.key)
    else if info.algorithm.oid = ellipticOid then do
      checkCurve info.algorithm
      match ellipticSecret? info.key with
      | some secret => return (.ecdsa, secret.toOctets.bytes)
      | none => throw (.invalid .ecdsa)
    else .error (.unsupported (Der.Oid.text info.algorithm.oid))

/-- The point inside the string of bytes that the compact document puts around it. -/
def innerPoint : Bytes → Bytes
  | 0x04 :: 0x21 :: point => if point.length = 33 then point else 0x04 :: 0x21 :: point
  | b => b

def readPublic (document : Bytes) : Except KeyError (Scheme × Bytes) :=
  match Der.whole? publicInfo document with
  | none => .error (.length document.length)
  | some (algorithm, key) =>
    if algorithm.oid = ed25519Oid then .ok (.ed25519, key)
    else if algorithm.oid = secp256k1Oid then .ok (.ecdsa, innerPoint key)
    else if algorithm.oid = ellipticOid then do
      checkCurve algorithm
      return (.ecdsa, key)
    else .error (.unsupported (Der.Oid.text algorithm.oid))

def withoutPrefix : List Char → List Char
  | '0' :: 'x' :: rest => rest
  | cs => cs

/-- The bytes that a text stands for: hexadecimal digits, with `0x` before them or not, and blanks
around. -/
def ofText (s : String) : Except KeyError Bytes :=
  match Hex.decodeChars? (withoutPrefix (Text.trimChars s.toList)) with
  | some b => .ok b
  | none => .error .notHex

end HbarKit.KeyDocument
