import HbarKit.Key.Derivation
import HbarKit.Key.Public

/-!
# Private keys

A private key is an Ed25519 seed, with the chain code that child keys need if it came out of a
phrase, or an ECDSA secret. Keys that are read never carry a chain code.
-/
namespace HbarKit

inductive PrivateKey where
  | ed25519 (seed : Octets 32) (chainCode : Option (Octets 32))
  | ecdsa (secret : Ecdsa.Secret)
  deriving DecidableEq

namespace PrivateKey

def ofSeed (seed : Octets 32) : PrivateKey := ed25519 seed none

def ofNode (node : ChainNode) : PrivateKey := ed25519 node.key (some node.chainCode)

def scheme : PrivateKey → Scheme
  | ed25519 .. => .ed25519
  | ecdsa _ => .ecdsa

def secret : PrivateKey → Octets 32
  | ed25519 seed _ => seed
  | ecdsa secret => secret.toOctets

def chainCode? : PrivateKey → Option (Octets 32)
  | ed25519 _ chainCode => chainCode
  | ecdsa _ => none

def raw (k : PrivateKey) : Bytes := k.secret.bytes

def der (k : PrivateKey) : Bytes := KeyDocument.privateHeader k.scheme ++ k.raw

def rawText (k : PrivateKey) : String := Hex.encode k.raw

def text (k : PrivateKey) : String := Hex.encode k.der

def publicKey : PrivateKey → PublicKey
  | ed25519 seed _ => .ed25519 (Ed25519.publicKey seed)
  | ecdsa secret => .ofPoint (Ecdsa.publicPoint secret)

/-- The scheme and the public key, for people; the secret is not shown. -/
def debugText (k : PrivateKey) : String :=
  "PrivateKey(" ++ k.scheme.text ++ ", pub=" ++ k.publicKey.text ++ ")"

/-- The signature of a message: of the message itself, or for ECDSA of its Keccak-256 digest. -/
def sign (k : PrivateKey) (message : Bytes) : Octets 64 :=
  match k with
  | ed25519 seed _ => Ed25519.sign seed message
  | ecdsa secret => Ecdsa.sign secret message

def isDerivable (k : PrivateKey) : Bool := k.chainCode?.isSome

def derive (k : PrivateKey) (index : UInt32) : Except KeyError PrivateKey :=
  match k with
  | ecdsa _ => .error (.noChildren .schemeHasNone)
  | ed25519 _ none => .error (.noChildren .noChainCode)
  | ed25519 seed (some chainCode) => .ok (ofNode (ChainNode.child ⟨seed, chainCode⟩ index))

def legacyDerive (k : PrivateKey) (index : Int64) : Except KeyError PrivateKey :=
  match k with
  | ecdsa _ => .error (.noChildren .schemeHasNoLegacy)
  | ed25519 seed _ => do return ofSeed (← LegacyChild.child seed index)

def ofEcdsaSecret (b : Bytes) : Except KeyError PrivateKey :=
  match Ecdsa.Secret.ofBytes? b with
  | some secret => .ok (ecdsa secret)
  | none => .error (.invalid .ecdsa)

def ofDer (b : Bytes) : Except KeyError PrivateKey := do
  let (scheme, raw) ← KeyDocument.readPrivate b
  match Octets.ofBytes? 32 raw with
  | none => throw (.length raw.length)
  | some bytes =>
    match scheme with
    | .ed25519 => return ofSeed bytes
    | .ecdsa => ofEcdsaSecret bytes.bytes

def expect (expected : Scheme) (k : PrivateKey) : Except KeyError PrivateKey :=
  if k.scheme = expected then .ok k else .error (.mismatch expected k.scheme)

/-- An Ed25519 key: a seed, a seed and its public key, which is not looked at, or a document. -/
def ofBytesEd25519 (b : Bytes) : Except KeyError PrivateKey :=
  if h : b.length = 32 ∨ b.length = 64 then .ok (ofSeed (Octets.take 32 b (by omega)))
  else do expect .ed25519 (← ofDer b)

def ofBytesEcdsa (b : Bytes) : Except KeyError PrivateKey :=
  if b.length = 32 then ofEcdsaSecret b else do expect .ecdsa (← ofDer b)

/-- A key of either scheme. Bare bytes are taken for Ed25519. -/
def ofBytes (b : Bytes) : Except KeyError PrivateKey :=
  if b.length = 32 ∨ b.length = 64 then ofBytesEd25519 b else ofDer b

def parse (s : String) : Except KeyError PrivateKey := do ofBytes (← KeyDocument.ofText s)

def parseEd25519 (s : String) : Except KeyError PrivateKey := do
  ofBytesEd25519 (← KeyDocument.ofText s)

def parseEcdsa (s : String) : Except KeyError PrivateKey := do
  ofBytesEcdsa (← KeyDocument.ofText s)

end PrivateKey

end HbarKit
