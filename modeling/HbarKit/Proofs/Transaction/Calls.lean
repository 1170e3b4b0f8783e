import HbarKit.Network.Submission
import HbarKit.Proofs.Except
import HbarKit.Proofs.Network.Run

/-!
# Calls of a transaction

A transaction is changed by calls only. Whatever a call is given, and whether it succeeds or fails,
what it does is a row of four elementary steps: a draft is edited, a draft is frozen for some nodes,
a frozen transaction is signed, a frozen transaction becomes an executed one.
-/
namespace HbarKit.Transaction

/-- A call of a transaction with what it is given. A call that needs a client is given a session of
its own, so no two calls have to be made with one client or in one world. -/
inductive Call : Type 1 where
  | setId (id : TransactionId)
  | setNodes (nodes : List EntityId)
  | setFee (fee : Amount)
  | setMemo (memo : String)
  | setValidFor (validFor : Duration)
  | addHbar (account : EntityId) (amount : Amount)
  | addToken (token account : EntityId) (amount : Amount)
  | freeze
  | freezeWith {ω κ : Type} (host : Host ω κ) (session : Session ω κ)
  | sign (key : PrivateKey)
  | signWith (key : PublicKey) (signer : Bytes → Bytes)
  | signWithOperator {ω κ : Type} (host : Host ω κ) (session : Session ω κ)
  | execute {ω κ : Type} (host : Host ω κ) (deadline : Option Moment) (session : Session ω κ)

/-- Whether a change was made, and the transaction after it. One that fails changes nothing. -/
def settle (t : Transaction) : Except Error Transaction → Except Error Unit × Transaction
  | .ok t' => (.ok (), t')
  | .error e => (.error e, t)

/-- Whether a call succeeds, and the transaction after it. -/
def Call.run (t : Transaction) : Call → Except Error Unit × Transaction
  | .setId id => t.settle (t.setId id)
  | .setNodes nodes => t.settle (t.setNodes nodes)
  | .setFee fee => t.settle (t.setFee fee)
  | .setMemo memo => t.settle (t.setMemo memo)
  | .setValidFor validFor => t.settle (t.setValidFor validFor)
  | .addHbar account amount => t.settle (t.addHbar account amount)
  | .addToken token account amount => t.settle (t.addToken token account amount)
  | .freeze => t.settle t.freeze
  | .freezeWith host s => t.settle (t.freezeWith host s).1
  | .sign key => t.settle (t.sign key)
  | .signWith key signer => t.settle (t.signWith key signer)
  | .signWithOperator host s => t.settle (t.signWithOperator host s).1
  | .execute host deadline s =>
    let (result, t') := (t.execute host deadline s).1
    (result.map fun _ => (), t')

/-- The transaction after some calls, one after the other. -/
def after (t : Transaction) (calls : List Call) : Transaction :=
  calls.foldl (fun t c => (c.run t).2) t

/-- An elementary step. -/
inductive Step : Transaction → Transaction → Prop
  | edit (d d' : Draft) : Step (draft d) (draft d')
  | freeze {d : Draft} {id : TransactionId} {fee : Amount} {nodes : List EntityId} {f : Frozen}
      (hne : nodes ≠ []) (hf : (d.terms id fee).freezeFor nodes = .ok f) :
      Step (draft d) (frozen f)
  | sign (f : Frozen) (key : PublicKey) (signer : Bytes → Bytes) :
      Step (frozen f) (frozen (f.sign key signer))
  | execute (f : Frozen) : Step (frozen f) (executed f)

/-- Some elementary steps in a row, or none. -/
abbrev Steps : Transaction → Transaction → Prop := Relation.ReflTransGen Step

theorem Steps.settle {t : Transaction} {r : Except Error Transaction}
    (h : ∀ t', r = .ok t' → Steps t t') : Steps t (t.settle r).2 := by
  cases r with
  | ok t' => exact h t' rfl
  | error e => exact .refl

/-! ## Steps of the single calls -/

theorem steps_of_edit {t t' : Transaction} {change : Draft → Except Error Draft}
    (h : t.edit change = .ok t') : Steps t t' := by
  cases t with
  | draft d =>
    obtain ⟨d', _, h⟩ := bind_eq_ok.mp h
    cases h
    exact .single (.edit d d')
  | frozen f => cases h
  | executed f => cases h

theorem step_of_draft_freeze {d : Draft} {f : Frozen} (h : d.freeze = .ok f) :
    Step (draft d) (frozen f) := by
  unfold Draft.freeze at h
  cases hid : d.id with
  | none =>
    rw [hid] at h
    cases h
  | some id =>
    by_cases hnodes : d.nodes = []
    · simp only [hid, hnodes] at h
      cases h
    · have hempty : d.nodes.isEmpty = false := by simpa using hnodes
      simp only [hid, hempty, Bool.false_eq_true, if_false] at h
      exact .freeze hnodes h

theorem steps_of_freeze {t t' : Transaction} (h : t.freeze = .ok t') : Steps t t' := by
  cases t with
  | draft d =>
    obtain ⟨f, hf, h⟩ := bind_eq_ok.mp h
    cases h
    exact .single (step_of_draft_freeze hf)
  | frozen f =>
    cases h
    exact .refl
  | executed f => cases h

theorem steps_of_signWith {t t' : Transaction} {key : PublicKey} {signer : Bytes → Bytes}
    (h : t.signWith key signer = .ok t') : Steps t t' := by
  cases t with
  | draft d =>
    obtain ⟨f, hf, h⟩ := bind_eq_ok.mp h
    cases h
    exact .tail (.single (step_of_draft_freeze hf)) (.sign f key signer)
  | frozen f =>
    cases h
    exact .single (.sign f key signer)
  | executed f => cases h

section Client

variable {ω κ : Type} (host : Host ω κ) (s : Session ω κ)

/-- The nodes that are settled on are some. -/
theorem chooseNodes_ne_nil {d : Draft} {nodes : List EntityId}
    (h : (d.chooseNodes host s).1 = .ok nodes) : nodes ≠ [] := by
  unfold Draft.chooseNodes at h
  cases hd : d.nodes with
  | nil =>
    simp only [hd, Run.bind_apply, Run.client_apply] at h
    cases hsample : (Run.sample host s.client.settings.maxNodes s).1 with
    | nil =>
      rw [hsample] at h
      cases h
    | cons n rest =>
      rw [hsample] at h
      cases h
      simp
  | cons n rest =>
    rw [hd] at h
    cases h
    simp

/-- A client freezes a draft for a name, a fee and some nodes. -/
theorem step_of_draft_freezeWith {d : Draft} {f : Frozen} (h : (d.freezeWith host s).1 = .ok f) :
    Step (draft d) (frozen f) := by
  simp only [Draft.freezeWith, Run.bind_apply] at h
  cases hid : (d.chooseId host s).1 with
  | error e =>
    rw [hid] at h
    cases h
  | ok id =>
    simp only [hid, Run.bind_apply] at h
    cases hnodes : (d.chooseNodes host (d.chooseId host s).2).1 with
    | error e =>
      rw [hnodes] at h
      cases h
    | ok nodes =>
      rw [hnodes] at h
      exact .freeze (chooseNodes_ne_nil host _ hnodes) h

theorem steps_of_freezeWith {t t' : Transaction} (h : (t.freezeWith host s).1 = .ok t') :
    Steps t t' := by
  cases t with
  | draft d =>
    simp only [Transaction.freezeWith, Run.bind_apply, Run.pure_apply] at h
    cases hf : (d.freezeWith host s).1 with
    | error e =>
      rw [hf] at h
      cases h
    | ok f =>
      rw [hf] at h
      cases h
      exact .single (step_of_draft_freezeWith host s hf)
  | frozen f =>
    cases h
    exact .refl
  | executed f => cases h

theorem steps_of_signWithOperator {t t' : Transaction}
    (h : (t.signWithOperator host s).1 = .ok t') : Steps t t' := by
  simp only [Transaction.signWithOperator, Run.bind_apply, Run.client_apply] at h
  cases hoperator : s.client.operator with
  | none =>
    rw [hoperator] at h
    cases h
  | some operator =>
    simp only [hoperator, Run.bind_apply] at h
    cases hf : (t.freezeWith host s).1 with
    | error e =>
      rw [hf] at h
      cases h
    | ok f =>
      rw [hf] at h
      exact .trans (steps_of_freezeWith host s hf) (steps_of_signWith h)

theorem steps_signByPayer (f : Frozen) (operator : Option Operator) :
    Steps (frozen f) (frozen (f.signByPayer operator)) := by
  unfold Frozen.signByPayer
  split
  · split
    · exact .single (.sign f _ _)
    · exact .refl
  · exact .refl

/-- Executing freezes and signs, and a transaction that a node accepted is executed. -/
theorem steps_execute (deadline : Option Moment) (t : Transaction) :
    Steps t (t.execute host deadline s).1.2 := by
  simp only [Transaction.execute, Run.bind_apply]
  cases hf : (t.freezeWith host s).1 with
  | error e => exact .refl
  | ok t' =>
    have hfrozen := steps_of_freezeWith host s hf
    cases t' with
    | draft d => exact hfrozen
    | executed f => exact hfrozen
    | frozen f =>
      let f' := f.signByPayer (t.freezeWith host s).2.client.operator
      have hsigned : Steps t (frozen f') := hfrozen.trans (steps_signByPayer f _)
      simp only [Run.bind_apply, Run.client_apply]
      cases (f'.inquiry.run host deadline (t.freezeWith host s).2).1 with
      | ok acceptance => exact hsigned.tail (.execute f')
      | error e => exact hsigned

end Client

/-- What a call does is a row of elementary steps. -/
theorem Call.steps (t : Transaction) (c : Call) : Steps t (c.run t).2 := by
  cases c with
  | setId | setNodes | setFee | setMemo | setValidFor | addHbar | addToken =>
    exact Steps.settle fun _ => steps_of_edit
  | freeze => exact Steps.settle fun _ => steps_of_freeze
  | freezeWith host s => exact Steps.settle fun _ => steps_of_freezeWith host s
  | sign => exact Steps.settle fun _ => steps_of_signWith
  | signWith => exact Steps.settle fun _ => steps_of_signWith
  | signWithOperator host s => exact Steps.settle fun _ => steps_of_signWithOperator host s
  | execute host deadline s => exact steps_execute host s deadline t

/-- What calls do one after the other is a row of elementary steps. -/
theorem steps_after (t : Transaction) (calls : List Call) : Steps t (t.after calls) := by
  induction calls generalizing t with
  | nil => exact .refl
  | cons c calls ih => exact (c.steps t).trans (ih _)

end HbarKit.Transaction
