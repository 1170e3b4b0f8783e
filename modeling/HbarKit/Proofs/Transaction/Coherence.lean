import HbarKit.Proofs.Transaction.Calls
import HbarKit.Proofs.Wire.Message

/-!
# What holds of a transaction at any time

A draft has no copies. In a transaction that is no draft any more the copies stand in the order of
the nodes, each holds the body for its node as it is written, and all have been signed by the same
keys in the same order, by each of them once. Every elementary step keeps that, hence every row of
calls. What is written in a copy can be read as that body, unless the transaction is named by an
instant that is not regular: setting such a name and freezing succeed, but the copies are
unreadable.
-/
namespace HbarKit

/-! ## Signers -/

namespace SignatureMap

/-- The keys that signed and the schemes they signed by, in the order of their signatures. -/
def signers (m : SignatureMap) : List (Bytes × Scheme) :=
  m.pairs.map fun p => (p.publicKey, p.signature.scheme)

/-- Some signers and a key behind them, unless it is one of them. -/
def withSigner (key : PublicKey) (signers : List (Bytes × Scheme)) : List (Bytes × Scheme) :=
  if key.raw ∈ signers.map Prod.fst then signers else signers ++ [(key.raw, key.scheme)]

theorem map_fst_signers (m : SignatureMap) :
    m.signers.map Prod.fst = m.pairs.map SignaturePair.publicKey := by
  simp [signers]

theorem contains_iff (m : SignatureMap) (key : PublicKey) :
    m.contains key = true ↔ key.raw ∈ m.signers.map Prod.fst := by
  rw [map_fst_signers]
  simp [contains]

theorem signers_push (m : SignatureMap) (key : PublicKey) (signature : Bytes) :
    (m.push key signature).signers = withSigner key m.signers := by
  by_cases h : m.contains key = true
  · have hmem := (contains_iff m key).mp h
    simp [push, withSigner, h, hmem]
  · have hmem : ¬ key.raw ∈ m.signers.map Prod.fst := fun hm => h ((contains_iff m key).mpr hm)
    rw [withSigner, if_neg hmem, push, if_neg h]
    simp [signers]

/-- Signers with different keys stay so when a key is added. -/
theorem nodup_withSigner (key : PublicKey) {signers : List (Bytes × Scheme)}
    (h : (signers.map Prod.fst).Nodup) : ((withSigner key signers).map Prod.fst).Nodup := by
  unfold withSigner
  split
  · exact h
  · rename_i hnew
    rw [List.map_append, List.nodup_append]
    refine ⟨h, by simp, ?_⟩
    intro a ha b hb he
    rw [List.map_singleton, List.mem_singleton] at hb
    rw [he, hb] at ha
    exact hnew ha

end SignatureMap

namespace NodeCopy

@[simp] theorem node_sign (c : NodeCopy) (key : PublicKey) (signer : Bytes → Bytes) :
    (c.sign key signer).node = c.node := by
  unfold sign
  split <;> rfl

@[simp] theorem body_sign (c : NodeCopy) (key : PublicKey) (signer : Bytes → Bytes) :
    (c.sign key signer).body = c.body := by
  unfold sign
  split <;> rfl

/-- Signing adds the key to the signers of a copy. -/
theorem signers_sign (c : NodeCopy) (key : PublicKey) (signer : Bytes → Bytes) :
    (c.sign key signer).signatures.signers = SignatureMap.withSigner key c.signatures.signers := by
  by_cases h : c.signatures.contains key = true
  · have hmem := (SignatureMap.contains_iff _ _).mp h
    rw [sign, if_pos h, SignatureMap.withSigner, if_pos hmem]
  · rw [sign, if_neg h]
    exact SignatureMap.signers_push _ _ _

end NodeCopy

/-! ## Freezing -/

namespace Terms

theorem copyFor_eq_ok {t : Terms} {node : EntityId} {c : NodeCopy} (h : t.copyFor node = .ok c) :
    c.node = node ∧ c.signatures = .empty ∧
      Wire.encode? Wire.body (t.bodyFor node) = some c.body := by
  unfold copyFor at h
  split at h
  · rename_i body hbody
    cases h
    exact ⟨rfl, rfl, hbody⟩
  · cases h

/-- Freezing keeps the terms and writes the copies in the order of the nodes. -/
theorem freezeFor_eq_ok {t : Terms} {nodes : List EntityId} {f : Frozen}
    (h : t.freezeFor nodes = .ok f) :
    f.terms = t ∧ f.nodes = nodes ∧
      List.Forall₂ (fun node c => t.copyFor node = .ok c) nodes f.copies := by
  obtain ⟨copies, hcopies, h⟩ := bind_eq_ok.mp h
  cases h
  exact ⟨rfl, rfl, forall₂_of_mapM_eq_ok hcopies⟩

end Terms

namespace Transaction

/-- The body of a transaction with a name and a fee for a node. -/
def bodyOf (t : Transaction) (id : TransactionId) (fee : Amount) (node : EntityId) :
    TransactionBody :=
  ⟨id, node, fee, UInt64.ofNat t.validFor.seconds, t.memo, t.transfers⟩

/-- What holds of a transaction at any time. -/
structure Coherent (t : Transaction) : Prop where
  /-- A draft has no copies. -/
  draft : t.isFrozen = false → t.copies = []
  /-- When it is frozen its name, its fee and its nodes are settled. -/
  settled : t.isFrozen = true → t.id?.isSome ∧ t.fee?.isSome ∧ t.nodes ≠ []
  /-- The copies are those for its nodes, in their order. -/
  aligned : t.isFrozen = true → t.copies.map NodeCopy.node = t.nodes
  /-- A copy is the body for its node, as it is written. -/
  written : ∀ id fee, t.id? = some id → t.fee? = some fee → ∀ c ∈ t.copies,
    Wire.encode? Wire.body (t.bodyOf id fee c.node) = some c.body
  /-- A copy is read as the body for its node, up to checksums, if the instant in the name of the
  transaction is regular. Otherwise it cannot be read. -/
  readable : ∀ id fee, t.id? = some id → t.fee? = some fee → ∀ c ∈ t.copies,
    Wire.decode? Wire.body c.body = (t.bodyOf id fee c.node).back
  /-- No copy has two signatures of one key. -/
  signedOnce : ∀ c ∈ t.copies, (c.signatures.pairs.map SignaturePair.publicKey).Nodup
  /-- All copies have the same signers in the same order. -/
  signedAlike : ∀ c ∈ t.copies, ∀ d ∈ t.copies, c.signatures.signers = d.signatures.signers

theorem coherent_draft (d : Draft) : (Transaction.draft d).Coherent where
  draft _ := rfl
  settled h := by cases h
  aligned h := by cases h
  written _ _ _ _ c hc := by cases hc
  readable _ _ _ _ c hc := by cases hc
  signedOnce c hc := by cases hc
  signedAlike c hc := by cases hc

theorem coherent_freezeFor {t : Terms} {nodes : List EntityId} {f : Frozen} (hne : nodes ≠ [])
    (h : t.freezeFor nodes = .ok f) : (frozen f).Coherent := by
  obtain ⟨hterms, hnodes, hcopies⟩ := Terms.freezeFor_eq_ok h
  have hfresh : ∀ c ∈ f.copies, c.signatures = .empty ∧
      Wire.encode? Wire.body (t.bodyFor c.node) = some c.body := by
    intro c hc
    obtain ⟨node, _, hcopy⟩ := exists_of_forall₂_of_mem hcopies hc
    obtain ⟨rfl, hempty, hbody⟩ := Terms.copyFor_eq_ok hcopy
    exact ⟨hempty, hbody⟩
  have hwritten : ∀ id fee, (frozen f).id? = some id → (frozen f).fee? = some fee →
      ∀ c ∈ f.copies, Wire.encode? Wire.body ((frozen f).bodyOf id fee c.node) = some c.body := by
    intro id fee hid hfee c hc
    -- The name and the fee can only be those of the terms that were frozen.
    cases hid
    cases hfee
    rw [← (hfresh c hc).2, ← hterms]
    rfl
  constructor
  · intro hf
    cases hf
  · intro _
    exact ⟨rfl, rfl, by simpa [Transaction.nodes, hnodes] using hne⟩
  · intro _
    have haligned : f.copies.map NodeCopy.node = nodes :=
      map_eq_of_forall₂ (fun _ _ hcopy => (Terms.copyFor_eq_ok hcopy).1) hcopies
    simpa [Transaction.nodes, Transaction.copies, hnodes] using haligned
  · exact hwritten
  · intro id fee hid hfee c hc
    exact Wire.decode?_of_encode? Wire.lawful_body (hwritten id fee hid hfee c hc)
  · intro c hc
    simp [(hfresh c hc).1, SignatureMap.empty]
  · intro c hc d hd
    rw [(hfresh c hc).1, (hfresh d hd).1]

theorem coherent_sign {f : Frozen} (h : (frozen f).Coherent) (key : PublicKey)
    (signer : Bytes → Bytes) : (frozen (f.sign key signer)).Coherent := by
  have hcopy : ∀ c ∈ (f.sign key signer).copies, ∃ c₀ ∈ f.copies, c₀.sign key signer = c :=
    fun c hc => List.mem_map.mp hc
  constructor
  · intro hf
    cases hf
  · exact h.settled
  · intro hf
    have haligned := h.aligned hf
    simpa [Transaction.nodes, Transaction.copies, Frozen.sign, Function.comp_def] using haligned
  · intro id fee hid hfee c hc
    obtain ⟨c₀, hc₀, rfl⟩ := hcopy c hc
    rw [NodeCopy.node_sign, NodeCopy.body_sign]
    exact h.written id fee hid hfee c₀ hc₀
  · intro id fee hid hfee c hc
    obtain ⟨c₀, hc₀, rfl⟩ := hcopy c hc
    rw [NodeCopy.node_sign, NodeCopy.body_sign]
    exact h.readable id fee hid hfee c₀ hc₀
  · intro c hc
    obtain ⟨c₀, hc₀, rfl⟩ := hcopy c hc
    have hnodup := h.signedOnce c₀ hc₀
    rw [← SignatureMap.map_fst_signers] at hnodup ⊢
    rw [NodeCopy.signers_sign]
    exact SignatureMap.nodup_withSigner key hnodup
  · intro c hc d hd
    obtain ⟨c₀, hc₀, rfl⟩ := hcopy c hc
    obtain ⟨d₀, hd₀, rfl⟩ := hcopy d hd
    rw [NodeCopy.signers_sign, NodeCopy.signers_sign, h.signedAlike c₀ hc₀ d₀ hd₀]

/-- Every elementary step keeps a transaction coherent. -/
theorem Step.coherent {t t' : Transaction} (step : Step t t') (h : t.Coherent) : t'.Coherent := by
  cases step with
  | edit d d' => exact coherent_draft d'
  | freeze hne hf => exact coherent_freezeFor hne hf
  | sign f key signer => exact coherent_sign h key signer
  | execute f =>
    exact
      { draft := fun hf => by cases hf
        settled := h.settled
        aligned := h.aligned
        written := h.written
        readable := h.readable
        signedOnce := h.signedOnce
        signedAlike := h.signedAlike }

theorem Steps.coherent {t t' : Transaction} (steps : Steps t t') (h : t.Coherent) :
    t'.Coherent := by
  induction steps with
  | refl => exact h
  | tail _ step ih => exact step.coherent ih

theorem coherent_after (calls : List Call) : (new.after calls).Coherent :=
  (steps_after _ calls).coherent (coherent_draft .new)

/-! ## Whether the copies can be read -/

/-- Every copy is read as the body for its node. -/
def Legible (t : Transaction) : Prop :=
  ∀ id fee, t.id? = some id → t.fee? = some fee → ∀ c ∈ t.copies,
    Wire.decode? Wire.body c.body = some (t.bodyOf id fee c.node).bare

/-- The copies of a frozen transaction can be read exactly if the instant in its name is regular. -/
theorem Coherent.legible_iff {t : Transaction} (h : t.Coherent) (hfrozen : t.isFrozen = true) :
    t.Legible ↔ ∀ id, t.id? = some id → id.validStart.Regular := by
  obtain ⟨hid, hfee, hnodes⟩ := h.settled hfrozen
  obtain ⟨id, hid⟩ := Option.isSome_iff_exists.mp hid
  obtain ⟨fee, hfee⟩ := Option.isSome_iff_exists.mp hfee
  constructor
  · intro hlegible id' hid'
    obtain rfl := Option.some.inj (hid'.symm.trans hid)
    have hne : t.copies ≠ [] := fun hnil => hnodes (by rw [← h.aligned hfrozen, hnil]; rfl)
    obtain ⟨c, hc⟩ := List.exists_mem_of_ne_nil _ hne
    have hread := hlegible _ fee hid hfee c hc
    rw [h.readable _ fee hid hfee c hc] at hread
    exact (Option.ite_none_right_eq_some.mp hread).1
  · intro hregular id' fee' hid' hfee' c hc
    rw [h.readable id' fee' hid' hfee' c hc]
    exact if_pos (hregular id' hid')

/-- A transaction is coherent whatever was called since it was made, and once it is frozen its
copies can be read exactly if the instant in its name is regular. -/
theorem coherent_after_new (calls : List Call) :
    (new.after calls).Coherent ∧
      ((new.after calls).isFrozen = true → ((new.after calls).Legible ↔
        ∀ id, (new.after calls).id? = some id → id.validStart.Regular)) :=
  ⟨coherent_after calls, (coherent_after calls).legible_iff⟩

/-- Calls by which a transaction is frozen under a name that cannot be read. -/
def overrunningCalls : List Call :=
  [.setId .overrunning, .setNodes [⟨⟨0, 0, 3⟩, none⟩], .freeze]

theorem not_legible_overrunning :
    (new.after overrunningCalls).isFrozen = true ∧ ¬ (new.after overrunningCalls).Legible := by
  have hfrozen : (new.after overrunningCalls).isFrozen = true := by decide +kernel
  have hid : (new.after overrunningCalls).id? = some .overrunning := by decide +kernel
  refine ⟨hfrozen, fun hlegible => ?_⟩
  have hregular := ((coherent_after _).legible_iff hfrozen).mp hlegible _ hid
  exact absurd hregular (by decide)

end Transaction

end HbarKit
