import HbarKit.Proofs.Transaction.Calls

/-!
# What stays of a frozen transaction

A transaction that is no draft any more keeps what it says: its terms, its nodes and the bodies of
its copies. A copy gains signatures behind those that it has, and an executed transaction gains
nothing at all. Every elementary step keeps to that, hence every row of calls; and a call that goes
against it fails and changes nothing.
-/
namespace HbarKit

/-! ## Copies -/

/-- A copy later on: it is for the same node and has the same body, and its signatures are those
that it had and perhaps more behind them. -/
structure NodeCopy.Grows (c c' : NodeCopy) : Prop where
  node : c'.node = c.node
  body : c'.body = c.body
  signatures : c.signatures.pairs <+: c'.signatures.pairs

namespace NodeCopy

theorem grows_refl (c : NodeCopy) : c.Grows c := ⟨rfl, rfl, List.prefix_refl _⟩

theorem Grows.trans {a b c : NodeCopy} (hab : a.Grows b) (hbc : b.Grows c) : a.Grows c :=
  ⟨hbc.node.trans hab.node, hbc.body.trans hab.body, hab.signatures.trans hbc.signatures⟩

theorem grows_sign (c : NodeCopy) (key : PublicKey) (signer : Bytes → Bytes) :
    c.Grows (c.sign key signer) := by
  by_cases h : c.signatures.contains key = true
  · rw [sign, if_pos h]
    exact c.grows_refl
  · rw [sign, if_neg h]
    refine ⟨rfl, rfl, ?_⟩
    rw [SignatureMap.push, if_neg h]
    exact List.prefix_append _ _

theorem forall₂_grows_trans {as bs cs : List NodeCopy} (hab : List.Forall₂ Grows as bs)
    (hbc : List.Forall₂ Grows bs cs) : List.Forall₂ Grows as cs := by
  induction hab generalizing cs with
  | nil => exact hbc
  | cons ha _ ih =>
    cases hbc with
    | cons hb hbc => exact .cons (ha.trans hb) (ih hbc)

end NodeCopy

namespace Transaction

/-! ## Steps -/

/-- How far a transaction has come. -/
def stage : Transaction → Nat
  | draft _ => 0
  | frozen _ => 1
  | executed _ => 2

/-- Whether a node has accepted the transaction. -/
def isExecuted : Transaction → Bool
  | draft _ | frozen _ => false
  | executed _ => true

/-- What a transaction keeps of what it was. -/
structure Keeps (t t' : Transaction) : Prop where
  id : t'.id? = t.id?
  nodes : t'.nodes = t.nodes
  fee : t'.fee? = t.fee?
  memo : t'.memo = t.memo
  validFor : t'.validFor = t.validFor
  transfers : t'.transfers = t.transfers
  copies : List.Forall₂ NodeCopy.Grows t.copies t'.copies
  stage : t.stage ≤ t'.stage
  executed : t.isExecuted = true → t' = t

theorem keeps_refl (t : Transaction) : t.Keeps t where
  id := rfl
  nodes := rfl
  fee := rfl
  memo := rfl
  validFor := rfl
  transfers := rfl
  copies := List.forall₂_same.mpr fun c _ => c.grows_refl
  stage := Nat.le_refl _
  executed _ := rfl

theorem Keeps.trans {t u v : Transaction} (htu : t.Keeps u) (huv : u.Keeps v) : t.Keeps v where
  id := huv.id.trans htu.id
  nodes := huv.nodes.trans htu.nodes
  fee := huv.fee.trans htu.fee
  memo := huv.memo.trans htu.memo
  validFor := huv.validFor.trans htu.validFor
  transfers := huv.transfers.trans htu.transfers
  copies := NodeCopy.forall₂_grows_trans htu.copies huv.copies
  stage := htu.stage.trans huv.stage
  executed h := by
    obtain rfl := htu.executed h
    exact huv.executed h

/-- What comes after something frozen is frozen. -/
theorem Keeps.isFrozen {t t' : Transaction} (h : t.Keeps t') (hf : t.isFrozen = true) :
    t'.isFrozen = true := by
  have hstage := h.stage
  cases t' with
  | draft d =>
    cases t with
    | draft _ => cases hf
    | frozen _ | executed _ => cases hstage
  | frozen _ | executed _ => rfl

theorem keeps_sign (f : Frozen) (key : PublicKey) (signer : Bytes → Bytes) :
    (frozen f).Keeps (frozen (f.sign key signer)) where
  id := rfl
  nodes := rfl
  fee := rfl
  memo := rfl
  validFor := rfl
  transfers := rfl
  copies := by
    apply List.forall₂_map_right_iff.mpr
    exact List.forall₂_same.mpr fun c _ => c.grows_sign key signer
  stage := Nat.le_refl _
  executed h := by cases h

theorem keeps_execute (f : Frozen) : (frozen f).Keeps (executed f) where
  id := rfl
  nodes := rfl
  fee := rfl
  memo := rfl
  validFor := rfl
  transfers := rfl
  copies := List.forall₂_same.mpr fun c _ => c.grows_refl
  stage := Nat.le_succ 1
  executed h := by cases h

/-- A step from something frozen keeps it. -/
theorem Step.keeps {t t' : Transaction} (step : Step t t') (h : t.isFrozen = true) :
    t.Keeps t' := by
  cases step with
  | edit d d' => cases h
  | freeze hne hf => cases h
  | sign f key signer => exact keeps_sign f key signer
  | execute f => exact keeps_execute f

theorem Steps.keeps {t t' : Transaction} (steps : Steps t t') (h : t.isFrozen = true) :
    t.Keeps t' := by
  induction steps with
  | refl => exact t.keeps_refl
  | tail _ step ih => exact ih.trans (step.keeps (ih.isFrozen h))

/-! ## Refusals -/

/-- Whether a call sets or adds something. -/
def Call.edits : Call → Bool
  | .setId _ | .setNodes _ | .setFee _ | .setMemo _ | .setValidFor _ | .addHbar _ _
  | .addToken _ _ _ => true
  | .freeze | .freezeWith _ _ | .sign _ | .signWith _ _ | .signWithOperator _ _
  | .execute _ _ _ => false

/-- Why an executed transaction refuses a call. Signing for an operator asks for one before it looks
at the transaction. -/
def Call.refusal (c : Call) : Error :=
  if c.edits then .frozen
  else
    match c with
    | .signWithOperator _ s =>
      match s.client.operator with
      | none => .configuration .noOperator
      | some _ => .executed
    | _ => .executed

theorem edit_of_isFrozen {t : Transaction} (h : t.isFrozen = true)
    (change : Draft → Except Error Draft) : t.edit change = .error .frozen := by
  cases t with
  | draft d => cases h
  | frozen f | executed f => rfl

/-- Nothing can be set of or added to what is frozen. -/
theorem Call.run_of_edits {t : Transaction} (h : t.isFrozen = true) {c : Call}
    (hc : c.edits = true) : c.run t = (.error .frozen, t) := by
  have hedit := edit_of_isFrozen h
  cases c with
  | setId | setNodes | setFee | setMemo | setValidFor | addHbar | addToken =>
    exact congrArg t.settle (hedit _)
  | freeze | freezeWith | sign | signWith | signWithOperator | execute => cases hc

/-- An executed transaction refuses every call. -/
theorem Call.run_executed (f : Frozen) (c : Call) :
    c.run (executed f) = (.error c.refusal, executed f) := by
  cases c with
  | setId | setNodes | setFee | setMemo | setValidFor | addHbar | addToken =>
    exact run_of_edits rfl rfl
  | freeze | freezeWith | sign | signWith | execute => rfl
  | signWithOperator host s =>
    have hsign : ((executed f).signWithOperator host s).1 =
        .error (Call.signWithOperator host s).refusal := by
      simp only [Transaction.signWithOperator, Run.bind_apply, Run.client_apply, refusal, edits]
      cases s.client.operator with
      | none => rfl
      | some operator => rfl
    exact congrArg (executed f).settle hsign

/-- A transaction that is no draft any more keeps what it was whatever is called later. It refuses
to be set or added to, and once it is executed it refuses every call. -/
theorem keeps_and_refuses {t : Transaction} (h : t.isFrozen = true) (later : List Call) :
    t.Keeps (t.after later) ∧
      (∀ c : Call, c.edits = true → c.run (t.after later) = (.error .frozen, t.after later)) ∧
      ((t.after later).isExecuted = true →
        ∀ c : Call, c.run (t.after later) = (.error c.refusal, t.after later)) := by
  have hkeeps := (steps_after t later).keeps h
  refine ⟨hkeeps, fun c hc => Call.run_of_edits (hkeeps.isFrozen h) hc, ?_⟩
  intro hexecuted c
  cases ht : t.after later with
  | draft d | frozen f =>
    rw [ht] at hexecuted
    cases hexecuted
  | executed f => exact Call.run_executed f c

/-! ## A client without an operator -/

/-- A host whose nodes accept all that they are sent. A look at its clock takes a nanosecond. -/
def acceptingHost : Host Moment Unit where
  now w := (w, w + 1)
  date w := (0, w)
  random w := (0, w)
  isCancelled w := (false, w)
  wait time w := (false, w + time)
  connect _ _ w := (.ok (), w)
  send _ _ _ w := (.ok ((Wire.encode? Wire.response ⟨.ok, none⟩).getD []), w)

/-- The account of the only node of its network. -/
def acceptingNode : EntityId := ⟨⟨0, 0, 3⟩, none⟩

/-- A session of a new client of that network, which has no operator. -/
def operatorlessSession : Session Moment Unit where
  client := .ofNetwork [("node:50211", acceptingNode)]
  outside := 0

/-- Calls by which a transaction that moves nothing is frozen for that node. -/
def freezingCalls : List Call :=
  [.setId ⟨⟨⟨0, 0, 5⟩, none⟩, .ofNanos 1000000000, none, false⟩, .setNodes [acceptingNode],
    .freeze]

/-- The call by which it is executed. -/
def acceptedCall : Call := .execute acceptingHost none operatorlessSession

theorem keeps_and_refuses_accepted :
    (new.after freezingCalls).isFrozen = true ∧
      ((new.after freezingCalls).after [acceptedCall]).isExecuted = true ∧
      (new.after freezingCalls).Keeps ((new.after freezingCalls).after [acceptedCall]) ∧
      ∀ c : Call, c.run ((new.after freezingCalls).after [acceptedCall]) =
        (.error c.refusal, (new.after freezingCalls).after [acceptedCall]) := by
  have hfrozen : (new.after freezingCalls).isFrozen = true := by decide +kernel
  have hexecuted : ((new.after freezingCalls).after [acceptedCall]).isExecuted = true := by
    decide +kernel
  obtain ⟨hkeeps, -, hrefuses⟩ := keeps_and_refuses hfrozen [acceptedCall]
  exact ⟨hfrozen, hexecuted, hkeeps, hrefuses hexecuted⟩

/-- Not every refusal of an executed transaction tells that it is executed: a client without an
operator is told that it has none. -/
theorem not_all_refused_as_executed :
    ¬ ∀ (calls : List Call) (c : Call), (new.after calls).isExecuted = true → c.edits = false →
      (c.run (new.after calls)).1 = .error .executed := by
  intro h
  have hexecuted : (new.after (freezingCalls ++ [acceptedCall])).isExecuted = true := by
    decide +kernel
  have hrefused :=
    h _ (.signWithOperator acceptingHost operatorlessSession) hexecuted rfl
  have hnone : (Call.run (new.after (freezingCalls ++ [acceptedCall]))
      (.signWithOperator acceptingHost operatorlessSession)).1 =
        .error (.configuration .noOperator) := rfl
  rw [hnone] at hrefused
  cases hrefused

end Transaction

end HbarKit
