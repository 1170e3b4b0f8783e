import HbarKit.Mnemonic.Phrase
import HbarKit.Proofs.Keystore.Pem
import HbarKit.Proofs.Keystore.RoundTrip

/-!
# Keys down a path

The keys of an account holder are reached in two ways: from the seed of the phrase along a whole
path, or from the key of the phrase by one child after the other. Both ways lead to the same nodes,
and neither cares for the top bits of the indices. All keys on the way have children, but what is
written for one of them does not hold its chain code, so a key that is read from it has none.
-/
namespace HbarKit

open KeyDocument (Spells)

/-! ## Top bits -/

/-- An index, and what setting or clearing its top bit makes of it. -/
inductive TopBit (i : UInt32) : UInt32 → Prop
  | kept : TopBit i i
  | set : TopBit i (i ||| 0x80000000)
  | cleared : TopBit i (i &&& 0x7fffffff)

theorem or_topBit_of_cleared (i : UInt32) :
    (i &&& 0x7fffffff) ||| 0x80000000 = i ||| 0x80000000 := by
  rw [← UInt32.toBitVec_inj]
  ext k hk
  simp only [UInt32.toBitVec_or, UInt32.toBitVec_and, BitVec.getElem_or, BitVec.getElem_and]
  -- Each bit of the mask is set except the top one.
  interval_cases k <;> simp

/-- With the top bit set, all of them are one index. -/
theorem TopBit.or_eq {i j : UInt32} (h : TopBit i j) : j ||| 0x80000000 = i ||| 0x80000000 := by
  cases h with
  | kept => rfl
  | set => rw [UInt32.or_assoc, UInt32.or_self]
  | cleared => exact or_topBit_of_cleared i

namespace ChainNode

theorem child_of_topBit (node : ChainNode) {i j : UInt32} (h : TopBit i j) :
    node.child j = node.child i := by
  rw [child, child, h.or_eq]

theorem descend_append (node : ChainNode) (path more : List UInt32) :
    node.descend (path ++ more) = (node.descend path).descend more :=
  List.foldl_append

theorem descend_of_topBit (node : ChainNode) {path other : List UInt32}
    (h : List.Forall₂ TopBit path other) : node.descend other = node.descend path := by
  induction h generalizing node with
  | nil => rfl
  | cons hij _ ih =>
    rw [descend, List.foldl_cons, child_of_topBit node hij]
    exact ih _

end ChainNode

/-! ## One child after the other -/

namespace PrivateKey

/-- The key reached from a key by one child after the other. -/
def deriveAll (k : PrivateKey) (path : List UInt32) : Except KeyError PrivateKey :=
  path.foldlM derive k

/-- The child of the key of a node is the key of the child of the node. -/
theorem derive_ofNode (node : ChainNode) (index : UInt32) :
    (ofNode node).derive index = .ok (ofNode (node.child index)) := rfl

theorem deriveAll_ofNode (node : ChainNode) (path : List UInt32) :
    (ofNode node).deriveAll path = .ok (ofNode (node.descend path)) := by
  -- Both ways move the node with the first index, so the node is general.
  induction path generalizing node with
  | nil => rfl
  | cons index path ih =>
    rw [deriveAll, List.foldlM_cons, derive_ofNode]
    exact ih (node.child index)

theorem isDerivable_ofNode (node : ChainNode) : (ofNode node).isDerivable = true := rfl

/-! ## What is written and read -/

theorem isDerivable_bare (k : PrivateKey) : k.bare.isDerivable = false := by
  rw [isDerivable, chainCode?_bare]
  rfl

/-- A key without a chain code has no children, even if its scheme has some. -/
theorem derive_bare_of_scheme {k : PrivateKey} (h : k.scheme = .ed25519) (index : UInt32) :
    k.bare.derive index = .error (.noChildren .noChainCode) := by
  cases k with
  | ed25519 seed chainCode => rfl
  | ecdsa secret => cases h

theorem ofBytes_raw_of_scheme {k : PrivateKey} (h : k.scheme = .ed25519) :
    ofBytes k.raw = .ok k.bare := by
  have hown := ofBytesIn_raw k
  rw [h] at hown
  rw [ofBytes, if_pos (.inl k.length_raw)]
  exact hown

/-- Everything that is written for one key is read as another one: bytes and texts, documents,
blocks and keystores. Where no scheme is told, bare bytes are taken for Ed25519. -/
structure RereadAs (k found : PrivateKey) : Prop extends ReadAs k found where
  raw : k.scheme = .ed25519 → ofBytes k.raw = .ok found
  rawText : k.scheme = .ed25519 → ∀ s : String, Spells s.toList k.raw → parse s = .ok found
  block : ∀ given, ofPem k.toPem given = .ok found
  encryptedBlock : ∀ passphrase salt start,
    ofPem (k.toEncryptedPem passphrase salt start) (some passphrase) = .ok found
  keystore : ∀ passphrase rounds salt start, rounds ≠ 0 →
    Keystore.openBytes (Bytes.ofString (Keystore.encrypt k passphrase rounds salt start).text)
      passphrase = .ok found

theorem rereadAs_bare (k : PrivateKey) : k.RereadAs k.bare where
  toReadAs := k.readAs_bare
  raw := ofBytes_raw_of_scheme
  rawText := fun hscheme _ hs => (parse_of_spells hs).trans (ofBytes_raw_of_scheme hscheme)
  block := ofPem_toPem k
  encryptedBlock := by
    intro passphrase salt start
    rw [ofPem_toEncryptedPem, ofEncrypted_toDer]
  keystore := by
    intro passphrase rounds salt start hrounds
    rw [Keystore.openBytes_text, ← Keystore.ofPlain_raw k]
    exact Keystore.decrypt_encrypt k passphrase rounds salt start hrounds (some k.scheme)

end PrivateKey

/-! ## From the phrase -/

namespace Mnemonic

/-- The seed along the whole path and the key of the phrase by one child after the other lead to the
same node, whatever the top bits of the indices are. Every key on the way has children, and no key
that is read from what is written for one of them does. -/
theorem deriveAll_privateKey (phrase : StandardPhrase) (passphrase : String) (path : List UInt32) :
    ∃ seed root, (standard phrase).seed passphrase = .ok seed ∧
      (standard phrase).privateKey passphrase = .ok root ∧
      root.deriveAll path =
        .ok (.ofNode ((ChainNode.ofSeed seed).descend (ChainNode.accountPath ++ path))) ∧
      (∀ other, List.Forall₂ TopBit path other → root.deriveAll other = root.deriveAll path) ∧
      (∀ whole other, List.Forall₂ TopBit whole other →
        (ChainNode.ofSeed seed).descend other = (ChainNode.ofSeed seed).descend whole) ∧
      ∀ taken, taken <+: path → ∃ key found, root.deriveAll taken = .ok key ∧
        key.isDerivable = true ∧ key.RereadAs found ∧ found.isDerivable = false ∧
          ∀ index, found.derive index = .error (.noChildren .noChainCode) := by
  let node := (ChainNode.ofSeed (phrase.seed passphrase)).descend ChainNode.accountPath
  refine ⟨phrase.seed passphrase, .ofNode node, rfl, rfl, ?whole, ?stepwise, ?fromSeed, ?onTheWay⟩
  case whole =>
    rw [PrivateKey.deriveAll_ofNode, ChainNode.descend_append]
  case stepwise =>
    intro other hother
    rw [PrivateKey.deriveAll_ofNode, PrivateKey.deriveAll_ofNode,
      ChainNode.descend_of_topBit node hother]
  case fromSeed =>
    intro whole other hother
    exact ChainNode.descend_of_topBit _ hother
  case onTheWay =>
    intro taken _
    let key := PrivateKey.ofNode (node.descend taken)
    exact ⟨key, key.bare, PrivateKey.deriveAll_ofNode node taken, PrivateKey.isDerivable_ofNode _,
      key.rereadAs_bare, key.isDerivable_bare, PrivateKey.derive_bare_of_scheme rfl⟩

/-- The key of a phrase two steps down, once with the top bits the other way round, and the key
after one step out of a keystore. -/
theorem deriveAll_privateKey_abandon :
    let phrase : StandardPhrase := ⟨List.replicate 11 "abandon" ++ ["about"], List.replicate 16 0⟩
    let path : List UInt32 := [5, 0x80000007]
    let other : List UInt32 := [5 ||| 0x80000000, 0x80000007 &&& 0x7fffffff]
    List.Forall₂ TopBit path other ∧ [5] <+: path ∧ (1 : UInt32) ≠ 0 ∧
      ∃ root key found, (standard phrase).privateKey "" = .ok root ∧
        root.deriveAll other = root.deriveAll path ∧ root.deriveAll [5] = .ok key ∧
        Keystore.openBytes (Bytes.ofString (Keystore.encrypt key "word" 1 (Octets.ofNatBE 32 9)
          (Octets.ofNatBE 16 10)).text) "word" = .ok found ∧ found.isDerivable = false := by
  intro phrase path other
  have hother : List.Forall₂ TopBit path other := .cons .set (.cons .cleared .nil)
  have htaken : [5] <+: path := ⟨[0x80000007], rfl⟩
  have hrounds : (1 : UInt32) ≠ 0 := by decide
  obtain ⟨seed, root, -, hroot, -, hsteps, -, htakes⟩ := deriveAll_privateKey phrase "" path
  obtain ⟨key, found, hkey, -, hreread, hbarren, -⟩ := htakes [5] htaken
  exact ⟨hother, htaken, hrounds, root, key, found, hroot, hsteps other hother, hkey,
    hreread.keystore "word" 1 _ _ hrounds, hbarren⟩

end Mnemonic

end HbarKit
