import HbarKit.Proofs.Transaction.InPlace

/-!
# Calls that fail

A call that fails leaves the record of a transaction as it was, with one exception: executing a
transaction that can be frozen and is then not accepted leaves it frozen and signed for the operator
who pays, with all signatures that it had before.
-/
namespace HbarKit.Transaction

variable {ω κ : Type}

/-- Whether a call puts the transaction to nodes. -/
def Call.submits : Call → Bool
  | .execute .. => true
  | _ => false

/-- The call by which the operator of a client signs, if it is the operator who pays. -/
def Record.payerCalls (r : Record) (c : Client κ) : List Call :=
  match r.id, c.operator with
  | some id, some operator =>
    if id.account.same operator.account then [.sign operator.key] else []
  | _, _ => []

/-- Whether a client cannot freeze a record. -/
def Record.Unfreezable (r : Record) (host : Host ω κ) (s : Session ω κ) : Prop :=
  ∃ e, ((Call.freezeWith host s).perform r).1 = .error e

/-- What is left of a record when executing it has failed. -/
structure Record.FailedExecution (host : Host ω κ) (s : Session ω κ) (r r' : Record) : Prop where
  /-- One that was executed before or cannot be frozen is as it was. -/
  unchanged : r.state = .executed ∨ r.Unfreezable host s → r' = r
  /-- Any other one is what the client freezes and its operator signs. -/
  prepared : ¬ (r.state = .executed ∨ r.Unfreezable host s) →
    r' = (r.after [.freezeWith host s]).after
      ((r.after [.freezeWith host s]).payerCalls s.client) ∧ r'.state = .frozen
  /-- Every copy is still in its place with the signatures that it had. -/
  retained : ∀ (i : Nat) (c : NodeCopy), r.copies[i]? = some c →
    ∃ c', r'.copies[i]? = some c' ∧ c.Grows c'

/-! ## Calls that do not reach nodes -/

theorem Call.run_of_error {t : Transaction} {c : Call} (hc : c.submits = false) {e : Error}
    (h : (c.run t).1 = .error e) : (c.run t).2 = t := by
  have hsettle : ∀ r : Except Error Transaction,
      (t.settle r).1 = .error e → (t.settle r).2 = t := by
    intro r hr
    cases r with
    | ok t' => cases hr
    | error fault => rfl
  cases c with
  | execute => cases hc
  | _ => exact hsettle _ h

/-! ## Executing -/

theorem getElem?_of_forall₂ {R : NodeCopy → NodeCopy → Prop} {as bs : List NodeCopy}
    (h : List.Forall₂ R as bs) {i : Nat} {a : NodeCopy} (ha : as[i]? = some a) :
    ∃ b, bs[i]? = some b ∧ R a b := by
  induction h generalizing i with
  | nil => cases ha
  | cons hR _ ih =>
    cases i with
    | zero =>
      cases ha
      exact ⟨_, rfl, hR⟩
    | succ i => exact ih ha

/-- The calls for the operator who pays sign for the operator who pays. -/
theorem after_payerCalls (f : Frozen) (c : Client κ) :
    (frozen f).record.after ((frozen f).record.payerCalls c) =
      (frozen (f.signByPayer c.operator)).record := by
  rw [← record_after]
  have hid : (frozen f).record.id = some f.terms.id := rfl
  simp only [Record.payerCalls, hid]
  cases c.operator with
  | none => rfl
  | some operator =>
    by_cases hpays : f.terms.id.account.same operator.account = true
    · simp only [Frozen.signByPayer, if_pos hpays]
      rfl
    · simp only [Frozen.signByPayer, if_neg hpays]
      rfl

theorem failedExecution_refl {t : Transaction} {host : Host ω κ} {s : Session ω κ}
    (h : t.record.Unfreezable host s) : Record.FailedExecution host s t.record t.record where
  unchanged _ := rfl
  prepared hnot := absurd (.inr h) hnot
  retained _ c hc := ⟨c, hc, c.grows_refl⟩

/-- A transaction that a client has frozen and that was then not accepted. -/
theorem failedExecution_of_frozen {t : Transaction} {f : Frozen} {host : Host ω κ}
    {s : Session ω κ} (h : (t.freezeWith host s).1 = .ok (frozen f)) :
    Record.FailedExecution host s t.record (frozen (f.signByPayer s.client.operator)).record := by
  have hcall : (Call.freezeWith host s).run t = (.ok (), frozen f) := by
    rw [Call.run, h]
    rfl
  have hfreezable : ¬ (t.record.state = .executed ∨ t.record.Unfreezable host s) := by
    rintro (hstate | ⟨e, he⟩)
    · cases t with
      | draft d => cases hstate
      | frozen f => cases hstate
      | executed f => cases h
    · rw [Call.perform_record, hcall] at he
      cases he
  have hafter : t.record.after [.freezeWith host s] = (frozen f).record := by
    rw [← record_after]
    exact congrArg (fun outcome => outcome.2.record) hcall
  constructor
  · intro hfailed
    exact absurd hfailed hfreezable
  · intro _
    rw [hafter, after_payerCalls]
    exact ⟨rfl, rfl⟩
  · intro i c hc
    cases t with
    | draft d => cases hc
    | executed f => cases h
    | frozen f =>
      cases h
      have hkeeps := (steps_signByPayer f s.client.operator).keeps rfl
      exact getElem?_of_forall₂ hkeeps.copies hc

theorem failedExecution (t : Transaction) (host : Host ω κ) (deadline : Option Moment)
    (s : Session ω κ) {e : Error} (h : ((Call.execute host deadline s).run t).1 = .error e) :
    Record.FailedExecution host s t.record ((Call.execute host deadline s).run t).2.record := by
  have hclient := (Run.passive_freezeWith host t).client_eq s
  simp only [Call.run, Transaction.execute, Run.bind_apply] at h ⊢
  rcases hfreeze : t.freezeWith host s with ⟨u, s₁⟩
  rw [hfreeze] at h
  have hclient : s₁.client = s.client := by rwa [hfreeze] at hclient
  cases u with
  | error fault =>
    apply failedExecution_refl
    refine ⟨fault, ?_⟩
    rw [Call.perform_record, Call.run, hfreeze]
    rfl
  | ok u =>
    obtain ⟨f, rfl⟩ := frozen_of_freezeWith host (congrArg Prod.fst hfreeze)
    have hfailed := failedExecution_of_frozen (congrArg Prod.fst hfreeze)
    simp only [Run.bind_apply, Run.client_apply, hclient] at h ⊢
    rcases hrun : (f.signByPayer s.client.operator).inquiry.run host deadline s₁ with ⟨result, s₂⟩
    rw [hrun] at h
    cases result with
    | ok acceptance => cases h
    | error fault => exact hfailed

/-- Whatever was called before, a call that fails leaves the record as it was, or as executing
leaves it. -/
theorem failure_leaves (calls : List Call) :
    Record.new.after calls = (new.after calls).record ∧
      (∀ c : Call, c.perform (Record.new.after calls) =
        ((c.run (new.after calls)).1, (c.run (new.after calls)).2.record)) ∧
      (∀ (c : Call) (e : Error) (r : Record), c.submits = false →
        c.perform (Record.new.after calls) = (.error e, r) → r = Record.new.after calls) ∧
      ∀ (ω κ : Type) (host : Host ω κ) (deadline : Option Moment) (s : Session ω κ) (e : Error)
        (r : Record),
        (Call.execute host deadline s).perform (Record.new.after calls) = (.error e, r) →
          Record.FailedExecution host s (Record.new.after calls) r := by
  have hrecord : Record.new.after calls = (new.after calls).record := (record_after new calls).symm
  rw [hrecord]
  refine ⟨rfl, fun c => c.perform_record _, ?_, ?_⟩
  · intro c e r hc hperform
    rw [c.perform_record, Prod.mk.injEq] at hperform
    rw [← hperform.2, Call.run_of_error hc hperform.1]
  · intro ω κ host deadline s e r hperform
    rw [Call.perform_record, Prod.mk.injEq] at hperform
    rw [← hperform.2]
    exact failedExecution _ host deadline s hperform.1

end HbarKit.Transaction
