import HbarKit.Key.Private

/-!
# Signature lists

The signatures over one message, in the order in which they were made, each with the bare public
key of its signer. A key signs only once.
-/
namespace HbarKit

structure Signature where
  scheme : Scheme
  bytes : Bytes
  deriving DecidableEq

structure SignaturePair where
  publicKey : Bytes
  signature : Signature
  deriving DecidableEq

/-- The signer, if the bytes are a key of the scheme of the signature. -/
def SignaturePair.signer? (p : SignaturePair) : Option PublicKey :=
  (match p.signature.scheme with
    | .ed25519 => PublicKey.ofBytesEd25519 p.publicKey
    | .ecdsa => PublicKey.ofBytesEcdsa p.publicKey).toOption

def SignaturePair.verify (p : SignaturePair) (message : Bytes) : Bool :=
  match p.signer? with
  | some key => key.verify message p.signature.bytes
  | none => false

structure SignatureMap where
  pairs : List SignaturePair
  deriving DecidableEq

namespace SignatureMap

def empty : SignatureMap := ⟨[]⟩

def contains (m : SignatureMap) (key : PublicKey) : Bool :=
  m.pairs.any fun p => p.publicKey == key.raw

/-- The signatures with one more, unless its key has signed already. -/
def push (m : SignatureMap) (key : PublicKey) (signature : Bytes) : SignatureMap :=
  if m.contains key then m else ⟨m.pairs ++ [⟨key.raw, ⟨key.scheme, signature⟩⟩]⟩

def verifyAll (m : SignatureMap) (message : Bytes) : Bool := m.pairs.all fun p => p.verify message

end SignatureMap

end HbarKit
