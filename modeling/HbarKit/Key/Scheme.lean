import HbarKit.Text.Decimal

/-!
# Signature schemes

The two schemes that the ledger accepts, and the reasons for which a key is refused.
-/
namespace HbarKit

inductive Scheme where
  | ed25519
  | ecdsa
  deriving DecidableEq, Repr

namespace Scheme

/-- The name shown to people. -/
def text : Scheme → String
  | ed25519 => "ed25519"
  | ecdsa => "ecdsa-secp256k1"

/-- The name in documents and commands. -/
def name : Scheme → String
  | ed25519 => "ed25519"
  | ecdsa => "ecdsa"

def ofName? (s : String) : Option Scheme :=
  if s = "ed25519" then some ed25519 else if s = "ecdsa" then some ecdsa else none

end Scheme

inductive NoChildren where
  | schemeHasNone
  | noChainCode
  | schemeHasNoLegacy
  deriving DecidableEq, Repr

def NoChildren.text : NoChildren → String
  | schemeHasNone => "only ed25519 keys support derivation"
  | noChainCode => "key has no chain code"
  | schemeHasNoLegacy => "only ed25519 keys support legacy derivation"

inductive KeyError where
  /-- A byte string of this length is neither a bare key nor a document. -/
  | length (bytes : Nat)
  | unsupported (algorithm : String)
  | mismatch (expected found : Scheme)
  /-- Bytes of the right length that are no key. -/
  | invalid (scheme : Scheme)
  | notHex
  | noChildren (reason : NoChildren)
  /-- No child of the old kind has this index. -/
  | index (i : Int)
  deriving DecidableEq, Repr

def KeyError.message : KeyError → String
  | length bytes =>
    "invalid key length: " ++ Decimal.ofNat bytes ++ " bytes matches neither raw nor DER framing"
  | unsupported algorithm => "unsupported key algorithm: " ++ algorithm
  | mismatch expected found => "expected a " ++ expected.text ++ " key, found " ++ found.text
  | invalid scheme => "key bytes are not a valid " ++ scheme.text ++ " key"
  | notHex => "key string is not valid hex"
  | noChildren reason => "key cannot be derived: " ++ reason.text
  | index i => "legacy derivation index " ++ Decimal.ofInt i ++ " is out of range"

end HbarKit
