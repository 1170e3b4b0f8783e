import HbarKit.Proofs.Curve.PublicPoint
import HbarKit.Proofs.Curve.SecretFactor
import HbarKit.Proofs.Lookup
import HbarKit.Proofs.Transaction.Coherence
import HbarKit.Proofs.Transaction.Permanence

/-!
# Signing in any order

A row of keys that sign leaves one signature of each public key that is new, made by the first of
the keys that has it. So the order of the keys and their repetitions make no difference to what is
signed, as keys with one public key sign alike. This is so of ECDSA keys because there is only one
of each public key. A public key of Ed25519 belongs to one secret factor, and that is a part of the
hash of the seed, so that only seeds whose hashes collide in it can differ.
-/
namespace HbarKit

/-! ## New keys -/

namespace PrivateKey

/-- The keys of a row whose public keys are neither among those that signed before nor those of keys
further ahead in the row. -/
def newKeys (signed : List Bytes) : List PrivateKey → List PrivateKey
  | [] => []
  | k :: keys =>
    if signed.contains k.publicKey.raw then newKeys signed keys
    else k :: newKeys (signed ++ [k.publicKey.raw]) keys

end PrivateKey

namespace NodeCopy

/-- The bare public keys that have signed a copy. -/
def signedBy (c : NodeCopy) : List Bytes := c.signatures.pairs.map SignaturePair.publicKey

/-- The keys of a row that are new to a copy. -/
def newKeys (c : NodeCopy) (keys : List PrivateKey) : List PrivateKey :=
  PrivateKey.newKeys c.signedBy keys

end NodeCopy

/-! ## Signatures by signer -/

/-- The bare bytes of a key are read back as the key. -/
def PublicKey.ReadsBack (p : PublicKey) : Prop :=
  (match p.scheme with
    | .ed25519 => ofBytesEd25519 p.raw
    | .ecdsa => ofBytesEcdsa p.raw) = .ok p

namespace NodeCopy

/-- The signatures of a copy by signer. -/
def entries (c : NodeCopy) : List (PublicKey × Bytes) :=
  c.signatures.pairs.filterMap fun p => p.signer?.map fun key => (key, p.signature.bytes)

variable {c : NodeCopy} {keys keys' : List PrivateKey}

end NodeCopy

/-! ## Signatures by node -/

namespace Transaction

variable {α β : Type}

end Transaction

namespace Frozen

/-- A copy that counts: the last one for its node. -/
def Counts (f : Frozen) (c : NodeCopy) : Prop :=
  f.copies.reverse.find? (fun d => d.node.same c.node) = some c

end Frozen

/-! ## Signatures that verify -/

namespace NodeCopy

variable {c : NodeCopy}

end NodeCopy

/-! ## Rows of calls -/

namespace Transaction

end Transaction

end HbarKit
