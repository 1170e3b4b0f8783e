import HbarKit.Curve.Ed25519
import HbarKit.Key.Document

/-!
# Public keys

A public key is the written form of a point: 32 bytes for Ed25519, kept as they were given, and 33
bytes for ECDSA, always the form with the parity of the second coordinate. A reader tells bare keys
from documents by their length.
-/
namespace HbarKit

inductive PublicKey where
  | ed25519 (point : Octets 32)
  | ecdsa (point : Octets 33)
  deriving DecidableEq

namespace PublicKey

def scheme : PublicKey → Scheme
  | ed25519 _ => .ed25519
  | ecdsa _ => .ecdsa

def raw : PublicKey → Bytes
  | ed25519 point => point.bytes
  | ecdsa point => point.bytes

def der (k : PublicKey) : Bytes := KeyDocument.publicHeader k.scheme ++ k.raw

def rawText (k : PublicKey) : String := Hex.encode k.raw

def text (k : PublicKey) : String := Hex.encode k.der

def debugText (k : PublicKey) : String := "PublicKey(" ++ k.scheme.text ++ ", " ++ k.rawText ++ ")"

def compareBytes : Bytes → Bytes → Ordering
  | [], [] => .eq
  | [], _ :: _ => .lt
  | _ :: _, [] => .gt
  | a :: as, b :: bs => (Ord.compare a b).then (compareBytes as bs)

/-- Every Ed25519 key is before every ECDSA key, and keys of one scheme are ordered by their
bytes. -/
def compare : PublicKey → PublicKey → Ordering
  | ed25519 _, ecdsa _ => .lt
  | ecdsa _, ed25519 _ => .gt
  | a, b => compareBytes a.raw b.raw

def ofPoint (p : Secp256k1.AffinePoint) : PublicKey := ecdsa p.compressed

def ofEd25519Point (b : Octets 32) : Except KeyError PublicKey :=
  if (Edwards.Point.decode? b).isSome then .ok (ed25519 b) else .error (.invalid .ed25519)

def ofEcdsaPoint (b : Bytes) : Except KeyError PublicKey :=
  match Secp256k1.AffinePoint.decode? b with
  | some p => .ok (ofPoint p)
  | none => .error (.invalid .ecdsa)

def ofDer (b : Bytes) : Except KeyError PublicKey := do
  let (scheme, raw) ← KeyDocument.readPublic b
  match scheme with
  | .ed25519 =>
    match Octets.ofBytes? 32 raw with
    | some point => ofEd25519Point point
    | none => throw (.length raw.length)
  | .ecdsa =>
    if raw.length = 33 ∨ raw.length = 65 then ofEcdsaPoint raw else throw (.length raw.length)

def expect (expected : Scheme) (k : PublicKey) : Except KeyError PublicKey :=
  if k.scheme = expected then .ok k else .error (.mismatch expected k.scheme)

def ofBytesEd25519 (b : Bytes) : Except KeyError PublicKey :=
  match Octets.ofBytes? 32 b with
  | some point => ofEd25519Point point
  | none => do expect .ed25519 (← ofDer b)

def ofBytesEcdsa (b : Bytes) : Except KeyError PublicKey :=
  if b.length = 33 ∨ b.length = 65 then ofEcdsaPoint b else do expect .ecdsa (← ofDer b)

def ofBytes (b : Bytes) : Except KeyError PublicKey :=
  if b.length = 32 then ofBytesEd25519 b
  else if b.length = 33 ∨ b.length = 65 then ofBytesEcdsa b
  else ofDer b

def parse (s : String) : Except KeyError PublicKey := do ofBytes (← KeyDocument.ofText s)

def parseEd25519 (s : String) : Except KeyError PublicKey := do
  ofBytesEd25519 (← KeyDocument.ofText s)

def parseEcdsa (s : String) : Except KeyError PublicKey := do
  ofBytesEcdsa (← KeyDocument.ofText s)

def verify (k : PublicKey) (message signature : Bytes) : Bool :=
  match k with
  | ed25519 point => Ed25519.verify point message signature
  | ecdsa point =>
    match Secp256k1.AffinePoint.decode? point.bytes with
    | none => false
    | some p => Ecdsa.verify p message signature

/-- The twenty-byte address of an ECDSA key: the end of the digest of both coordinates. -/
def evmAddress? : PublicKey → Option Bytes
  | ed25519 _ => none
  | ecdsa point => do
    let p ← Secp256k1.AffinePoint.decode? point.bytes
    return (Hash.keccak256.digest p.uncompressed.bytes.tail).drop 12

end PublicKey

end HbarKit
