import HbarKit.Hash.Hmac
import HbarKit.Hash.Sha512
import HbarKit.Key.Scheme

/-!
# Derived keys

A chain node is a key of 32 bytes with a chain code. The first node comes from a seed and each
further one from its parent and an index, of which the top bit is always taken as set. The old
way knows no chain codes: a child is the parent stretched together with eight bytes that depend on
the sign and the lowest byte of the index only.
-/
namespace HbarKit

structure ChainNode where
  key : Octets 32
  chainCode : Octets 32
  deriving DecidableEq

namespace ChainNode

/-- The node whose two halves are the tag of a message under a key. -/
def ofTag (key message : Bytes) : ChainNode :=
  let tag := Hash.hmac Hash.sha512 key message
  ⟨Octets.take 32 tag (by simp [tag, Hash.sha512]),
    Octets.take 32 (tag.drop 32) (by simp [tag, Hash.sha512])⟩

def ofSeed (seed : Bytes) : ChainNode := ofTag (Bytes.ofString "ed25519 seed") seed

/-- The child of a node at an index with the top bit set. -/
def child (node : ChainNode) (index : UInt32) : ChainNode :=
  ofTag node.chainCode.bytes
    (0 :: node.key.bytes ++ Bytes.ofNatBE 4 (index ||| 0x80000000).toNat)

def descend (node : ChainNode) (path : List UInt32) : ChainNode := path.foldl child node

/-- The indices that lead from the seed to the keys of an account holder. -/
def accountPath : List UInt32 := [44, 3030, 0, 0]

end ChainNode

namespace LegacyChild

/-- The index whose bytes are five ones. -/
def reserved : Int64 := 0xffffffffff

/-- The eight bytes of an index: a fill by its sign and its lowest byte four times. -/
def indexBytes (index : Int64) : Except KeyError Bytes :=
  if index = reserved then .ok [0, 0, 0, 0xff, 0xff, 0xff, 0xff, 0xff]
  else if 0xffffffff < index then .error (.index index.toInt)
  else
    let fill : UInt8 := if index < 0 then 0xff else 0
    let low : UInt8 := UInt8.ofNat (index.toInt % 256).toNat
    .ok (List.replicate 4 fill ++ List.replicate 4 low)

def rounds : Nat := 2048

def stretch (password : Bytes) : Octets 32 :=
  ⟨Hash.pbkdf2 Hash.sha512 password [0xff] rounds 32,
    Hash.length_pbkdf2 _ _ _ _ _ (by simp [Hash.sha512])⟩

def child (parent : Octets 32) (index : Int64) : Except KeyError (Octets 32) := do
  return stretch (parent.bytes ++ (← indexBytes index))

end LegacyChild

end HbarKit
