import HbarKit.Proofs.Transaction.Delivery

/-!
# Transactions in place

A transaction as a record whose fields are assigned one after the other. What a call that fails has
assigned by then stays assigned, so nothing here makes sure that it leaves the record as it was. The
record after a call is that of the transaction after it, whether the call succeeds or fails.
-/
namespace HbarKit

/-! ## Procedures -/

/-- A change of a state in place. When it fails, what it has changed by then stays changed. -/
abbrev Procedure (σ α : Type) := ExceptT Error (StateM σ) α

namespace Procedure

variable {σ α β : Type}

/-- A result that changes nothing. -/
def ofExcept (x : Except Error α) : Procedure σ α := fun s => (x, s)

theorem bind_of_ok {p : Procedure σ α} {s s' : σ} {a : α} (h : p s = (.ok a, s'))
    (f : α → Procedure σ β) : (p >>= f) s = f a s' := by
  change ExceptT.bindCont f (p s).1 (p s).2 = _
  rw [h]
  rfl

theorem bind_of_error {p : Procedure σ α} {s s' : σ} {e : Error} (h : p s = (.error e, s'))
    (f : α → Procedure σ β) : (p >>= f) s = (.error e, s') := by
  change ExceptT.bindCont f (p s).1 (p s).2 = _
  rw [h]
  rfl

@[simp] theorem pure_apply (a : α) (s : σ) : (pure a : Procedure σ α) s = (.ok a, s) := rfl

@[simp] theorem get_bind_apply (f : σ → Procedure σ β) (s : σ) :
    ((get : Procedure σ σ) >>= f) s = f s s := rfl

@[simp] theorem modify_bind_apply (change : σ → σ) (f : PUnit → Procedure σ β) (s : σ) :
    ((modify change : Procedure σ PUnit) >>= f) s = f () (change s) := rfl

end Procedure

/-- Whether a transaction can still be set, is frozen, or is executed. -/
inductive TransactionState where
  | mutable
  | frozen
  | executed
  deriving DecidableEq

namespace Transaction

/-- The fields of a transaction: those of a draft, its state and its copies. -/
structure Record extends Draft where
  state : TransactionState
  copies : List NodeCopy
  deriving DecidableEq

namespace Record

/-- A new record. -/
def new : Record := ⟨.new, .mutable, []⟩

/-! ## Setting and adding -/

/-- Fails unless all can still be set. -/
def requireMutable : Procedure Record Unit := do
  match (← get).state with
  | .mutable => return ()
  | .frozen | .executed => throw .frozen

/-- Assigns a field. -/
def assign (change : Record → Record) : Procedure Record Unit := do
  requireMutable
  modify change

/-- Assigns the memo unless it is too long. -/
def assignMemo (memo : String) : Procedure Record Unit := do
  requireMutable
  if Draft.maxMemoBytes < memo.utf8ByteSize then
    throw (.memoTooLong memo.utf8ByteSize Draft.maxMemoBytes)
  modify fun r => { r with memo }

/-- The first entry of the account with the sum, or a new entry behind the others. -/
def post (m : Movement) (entries : List Movement) : Except Error (List Movement) :=
  match entries.find? fun e => e.account.same m.account with
  | some entry =>
    match entry.amount.add? m.amount with
    | some sum =>
      .ok (entries.set (entries.findIdx fun e => e.account.same m.account) ⟨entry.account, sum⟩)
    | none => .error (.overflow m.account)
  | none => .ok (entries ++ [m])

/-- Adds a movement of the currency. -/
def addHbar (m : Movement) : Procedure Record Unit := do
  requireMutable
  let hbars ← Procedure.ofExcept (post m (← get).transfers.hbars)
  modify fun r => { r with transfers := { r.transfers with hbars } }

/-- Assigns the movements of the tokens. -/
def assignTokens (tokens : List TokenMovements) : Procedure Record Unit :=
  modify fun r => { r with transfers := { r.transfers with tokens } }

/-- The place of the group of a token, which is added without movements if there is none. -/
def groupOf (token : EntityId) : Procedure Record Nat := do
  let tokens := (← get).transfers.tokens
  match tokens.findIdx? fun g => g.token.same token with
  | some index => return index
  | none =>
    assignTokens (tokens ++ [⟨token, []⟩])
    return (← get).transfers.tokens.length - 1

/-- Adds a movement of a token. A group that is new is there before the sum is tried. -/
def addToken (token : EntityId) (m : Movement) : Procedure Record Unit := do
  requireMutable
  let index ← groupOf token
  let tokens := (← get).transfers.tokens
  let group := tokens.getD index ⟨token, []⟩
  let movements ← Procedure.ofExcept (post m group.movements)
  assignTokens (tokens.set index { group with movements })

/-! ## Freezing and signing -/

/-- Writes the copies for some nodes, and then assigns one field after the other. -/
def commit (id : TransactionId) (nodes : List EntityId) (fee : Amount) : Procedure Record Unit := do
  let terms := (← get).toDraft.terms id fee
  let copies ← Procedure.ofExcept (nodes.mapM terms.copyFor)
  modify fun r => { r with id := some id }
  modify fun r => { r with nodes }
  modify fun r => { r with fee := some fee }
  modify fun r => { r with copies }
  modify fun r => { r with state := .frozen }

/-- Freezes with what is set. -/
def freeze : Procedure Record Unit := do
  let r ← get
  match r.state with
  | .frozen => return ()
  | .executed => throw .executed
  | .mutable =>
    match r.id with
    | none => throw .payerUnset
    | some id =>
      if r.nodes.isEmpty then throw .nodesUnset
      commit id r.nodes (r.fee.getD Draft.defaultFee)

/-- Signs every copy, after freezing. -/
def signWith (key : PublicKey) (signer : Bytes → Bytes) : Procedure Record Unit := do
  match (← get).state with
  | .executed => throw .executed
  | .mutable => freeze
  | .frozen => pure ()
  modify fun r => { r with copies := r.copies.map fun c => c.sign key signer }

/-- Signs every copy with a key. -/
def sign (key : PrivateKey) : Procedure Record Unit :=
  signWith key.publicKey fun body => (key.sign body).bytes

/-! ## In the hands of a client -/

section Client

variable {ω κ α : Type}

/-- What only changes the record. -/
def onRecord (p : Procedure Record α) : Procedure (Record × Session ω κ) α :=
  fun (r, s) => ((p r).1, ((p r).2, s))

/-- What a client does without the record. -/
def onSession (m : Run ω κ (Except Error α)) : Procedure (Record × Session ω κ) α :=
  fun (r, s) => ((m s).1, (r, (m s).2))

/-- Freezes, and the client settles what is open. All of it is settled before anything is assigned.
-/
def freezeWith (host : Host ω κ) : Procedure (Record × Session ω κ) Unit := do
  let r := (← get).1
  match r.state with
  | .frozen => return ()
  | .executed => throw .executed
  | .mutable =>
    let id ← onSession (r.toDraft.chooseId host)
    let nodes ← onSession (r.toDraft.chooseNodes host)
    let fee := r.fee <|> (← get).2.client.settings.defaultFee
    onRecord (commit id nodes (fee.getD Draft.defaultFee))

/-- Signs with the key of the client's operator, after freezing. -/
def signWithOperator (host : Host ω κ) : Procedure (Record × Session ω κ) Unit := do
  match (← get).2.client.operator with
  | none => throw (.configuration .noOperator)
  | some operator =>
    if (← get).1.state = .mutable then freezeWith host
    onRecord (sign operator.key)

/-- The copy for the node of an account. -/
def copyFor (r : Record) (account : EntityId) : Except Error NodeCopy :=
  match r.copies.find? fun c => c.node.same account with
  | some c => .ok c
  | none => .error (.configuration (.notPreparedFor account))

/-- The record put to the nodes that it has copies for. -/
def inquiry (r : Record) : Inquiry Acceptance where
  validate l := do
    match r.id with
    | some id => id.validate l
    | none => pure ()
    EntityId.validateAll r.nodes l
    r.transfers.validate l
  nodes := r.nodes
  transaction := r.id
  request account := do
    let copy ← r.copyFor account
    let _ ← copy.hash
    return .submit copy.signed
  verdict := Verdict.ofSubmission
  answer account _ := do
    let hash ← (← r.copyFor account).hash
    match r.id with
    | some id => return ⟨id, account, hash⟩
    | none => throw .payerUnset

/-- Signs for an operator who pays. -/
def signForPayer : Option Operator → Procedure Record Unit
  | none => return ()
  | some operator => do
    match (← get).id with
    | none => return ()
    | some id => if id.account.same operator.account then sign operator.key

/-- Freezes, signs for an operator who pays, and puts the record to the nodes. -/
def execute (host : Host ω κ) (deadline : Option Moment) :
    Procedure (Record × Session ω κ) Acceptance := do
  if (← get).1.state = .executed then throw .executed
  freezeWith host
  onRecord (signForPayer (← get).2.client.operator)
  let acceptance ← onSession ((← get).1.inquiry.run host deadline)
  onRecord (modify fun r => { r with state := .executed })
  return acceptance

end Client

end Record

/-- Whether a call in place succeeds, and the record after it. -/
def Call.perform (r : Record) : Call → Except Error Unit × Record
  | .setId id => Record.assign (fun r => { r with id := some id }) r
  | .setNodes nodes => Record.assign (fun r => { r with nodes }) r
  | .setFee fee => Record.assign (fun r => { r with fee := some fee }) r
  | .setMemo memo => Record.assignMemo memo r
  | .setValidFor validFor => Record.assign (fun r => { r with validFor }) r
  | .addHbar account amount => Record.addHbar ⟨account, amount⟩ r
  | .addToken token account amount => Record.addToken token ⟨account, amount⟩ r
  | .freeze => Record.freeze r
  | .freezeWith host s =>
    let (result, (r, _)) := Record.freezeWith host (r, s)
    (result, r)
  | .sign key => Record.sign key r
  | .signWith key signer => Record.signWith key signer r
  | .signWithOperator host s =>
    let (result, (r, _)) := Record.signWithOperator host (r, s)
    (result, r)
  | .execute host deadline s =>
    let (result, (r, _)) := Record.execute host deadline (r, s)
    (result.map fun _ => (), r)

/-! ## The record of a transaction -/

/-- The fields of a transaction that is no draft any more. -/
def Record.ofFrozen (f : Frozen) (state : TransactionState) : Record where
  id := some f.terms.id
  nodes := f.nodes
  fee := some f.terms.fee
  memo := f.terms.memo
  validFor := f.terms.validFor
  transfers := f.terms.transfers
  state
  copies := f.copies

/-- The fields of a transaction. -/
def record : Transaction → Record
  | draft d => ⟨d, .mutable, []⟩
  | frozen f => .ofFrozen f .frozen
  | executed f => .ofFrozen f .executed

/-- What is left of a change of a transaction: whether it was made, and the fields after it. -/
def outcome (t : Transaction) (r : Except Error Transaction) : Except Error Unit × Record :=
  ((t.settle r).1, (t.settle r).2.record)

namespace Record

/-! ### Setting and adding -/

theorem edit_in_place {p : Procedure Record Unit} {change : Draft → Except Error Draft}
    (h : ∀ d, p (draft d).record = (draft d).outcome (do return draft (← change d)))
    (t : Transaction) :
    (requireMutable >>= fun _ => p) t.record = t.outcome (t.edit change) := by
  cases t with
  | draft d =>
    have hmutable : requireMutable (draft d).record = (.ok (), (draft d).record) := rfl
    rw [Procedure.bind_of_ok hmutable, h]
    rfl
  | frozen f => rfl
  | executed f => rfl

/-- An entry in its place, or a new one behind the others. -/
theorem post_eq (m : Movement) (entries : List Movement) :
    post m entries = match Transfers.addTo m entries with
      | some entries => .ok entries
      | none => .error (.overflow m.account) := by
  induction entries with
  | nil => rfl
  | cons entry rest ih =>
    by_cases hsame : entry.account.same m.account = true
    · simp only [post, Transfers.addTo, List.find?_cons, List.findIdx_cons, hsame, if_true, cond]
      cases entry.amount.add? m.amount with
      | none => rfl
      | some sum => rfl
    · have hbehind : post m (entry :: rest) = (post m rest).map (entry :: ·) := by
        simp only [post, List.find?_cons, List.findIdx_cons, hsame, cond]
        cases rest.find? fun e => e.account.same m.account with
        | none => rfl
        | some found =>
          dsimp only
          cases found.amount.add? m.amount <;> rfl
      rw [hbehind, ih, Transfers.addTo, if_neg hsame]
      cases Transfers.addTo m rest with
      | none => rfl
      | some entries => rfl

/-- A group in its place gains the movement. -/
theorem addToToken_of_some {token : EntityId} {tokens : List TokenMovements} {i : Nat}
    (h : tokens.findIdx? (fun g => g.token.same token) = some i) (m : Movement) :
    Transfers.addToToken token m tokens =
      (Transfers.addTo m (tokens.getD i ⟨token, []⟩).movements).map fun movements =>
        tokens.set i ⟨(tokens.getD i ⟨token, []⟩).token, movements⟩ := by
  induction tokens generalizing i with
  | nil => cases h
  | cons group rest ih =>
    rw [List.findIdx?_cons] at h
    by_cases hsame : group.token.same token = true
    · rw [if_pos hsame] at h
      cases h
      rw [Transfers.addToToken, if_pos hsame]
      rfl
    · rw [if_neg hsame] at h
      obtain ⟨j, hj, rfl⟩ := Option.map_eq_some_iff.mp h
      rw [Transfers.addToToken, if_neg hsame, ih hj, Option.map_map]
      rfl

/-- A token that has no group gets one. -/
theorem addToToken_of_none {token : EntityId} {tokens : List TokenMovements}
    (h : tokens.findIdx? (fun g => g.token.same token) = none) (m : Movement) :
    Transfers.addToToken token m tokens = some (tokens ++ [⟨token, [m]⟩]) := by
  induction tokens with
  | nil => rfl
  | cons group rest ih =>
    rw [List.findIdx?_cons] at h
    by_cases hsame : group.token.same token = true
    · rw [if_pos hsame] at h
      cases h
    · rw [if_neg hsame, Option.map_eq_none_iff] at h
      rw [Transfers.addToToken, if_neg hsame, ih h]
      rfl

theorem addHbar_in_place (account : EntityId) (amount : Amount) (t : Transaction) :
    addHbar ⟨account, amount⟩ t.record = t.outcome (t.addHbar account amount) := by
  apply edit_in_place
  intro d
  rw [Procedure.get_bind_apply]
  simp only [Draft.addHbar, Transfers.addHbar?]
  have hpost := post_eq ⟨account, amount⟩ d.transfers.hbars
  have hrecord : (draft d).record.transfers.hbars = d.transfers.hbars := rfl
  rw [hrecord]
  cases hadd : Transfers.addTo ⟨account, amount⟩ d.transfers.hbars with
  | none =>
    rw [hadd] at hpost
    rw [hpost]
    rfl
  | some hbars =>
    rw [hadd] at hpost
    rw [hpost]
    rfl

theorem groupOf_of_some {token : EntityId} {r : Record} {i : Nat}
    (h : r.transfers.tokens.findIdx? (fun g => g.token.same token) = some i) :
    groupOf token r = (.ok i, r) := by
  rw [groupOf, Procedure.get_bind_apply]
  simp only [h]
  rfl

theorem groupOf_of_none {token : EntityId} {r : Record}
    (h : r.transfers.tokens.findIdx? (fun g => g.token.same token) = none) :
    groupOf token r = (.ok r.transfers.tokens.length, { r with
      transfers := { r.transfers with tokens := r.transfers.tokens ++ [⟨token, []⟩] } }) := by
  rw [groupOf, Procedure.get_bind_apply]
  simp only [h]
  rw [assignTokens, Procedure.modify_bind_apply, Procedure.get_bind_apply]
  simp

/-- No sum is out of range in a group without movements, so a group that is new does not stay behind
a failure. -/
theorem addToken_in_place (token account : EntityId) (amount : Amount) (t : Transaction) :
    addToken token ⟨account, amount⟩ t.record = t.outcome (t.addToken token account amount) := by
  apply edit_in_place
  intro d
  have hrecord : (draft d).record = ⟨d, .mutable, []⟩ := rfl
  cases hgroup : d.transfers.tokens.findIdx? fun g => g.token.same token with
  | none =>
    have hnew : (d.transfers.tokens ++ [(⟨token, []⟩ : TokenMovements)]).getD
        d.transfers.tokens.length ⟨token, []⟩ = ⟨token, []⟩ := by simp
    have hset : ∀ group, (d.transfers.tokens ++ [(⟨token, []⟩ : TokenMovements)]).set
        d.transfers.tokens.length group = d.transfers.tokens ++ [group] := by simp
    have hpost : post ⟨account, amount⟩ [] = .ok [⟨account, amount⟩] := rfl
    rw [Procedure.bind_of_ok (groupOf_of_none hgroup), Procedure.get_bind_apply]
    simp only [Draft.addToken, Transfers.addToken?, addToToken_of_none hgroup, hrecord, hnew, hpost,
      hset]
    rfl
  | some i =>
    rw [Procedure.bind_of_ok (groupOf_of_some hgroup), Procedure.get_bind_apply, post_eq]
    simp only [Draft.addToken, Transfers.addToken?, addToToken_of_some hgroup, hrecord]
    cases Transfers.addTo ⟨account, amount⟩ (d.transfers.tokens.getD i ⟨token, []⟩).movements with
    | none => rfl
    | some movements => rfl

theorem assignMemo_in_place (memo : String) (t : Transaction) :
    assignMemo memo t.record = t.outcome (t.setMemo memo) := by
  apply edit_in_place
  intro d
  by_cases hlong : Draft.maxMemoBytes < memo.utf8ByteSize
  · simp only [Draft.setMemo, if_pos hlong]
    rfl
  · simp only [Draft.setMemo, if_neg hlong]
    rfl

/-! ### Freezing and signing -/

/-- What is written for nodes is what freezing for them gives. -/
theorem commit_in_place (d : Draft) (id : TransactionId) (nodes : List EntityId) (fee : Amount) :
    commit id nodes fee (draft d).record =
      (draft d).outcome (do return frozen (← (d.terms id fee).freezeFor nodes)) := by
  rw [commit, Procedure.get_bind_apply]
  have hterms : (draft d).record.toDraft.terms id fee = d.terms id fee := rfl
  simp only [hterms, Terms.freezeFor]
  cases nodes.mapM (d.terms id fee).copyFor with
  | error e => rfl
  | ok copies => rfl

theorem freeze_in_place (t : Transaction) : freeze t.record = t.outcome t.freeze := by
  cases t with
  | draft d =>
    rw [freeze, Procedure.get_bind_apply]
    have hrecord : (draft d).record = ⟨d, .mutable, []⟩ := rfl
    cases hid : d.id with
    | none =>
      simp only [Transaction.freeze, Draft.freeze, hrecord, hid]
      rfl
    | some id =>
      by_cases hnodes : d.nodes.isEmpty = true
      · simp only [Transaction.freeze, Draft.freeze, hrecord, hid, if_pos hnodes]
        rfl
      · have hcommit := commit_in_place d id d.nodes (d.fee.getD Draft.defaultFee)
        simp only [Transaction.freeze, Draft.freeze, hrecord, hid, if_neg hnodes] at hcommit ⊢
        exact hcommit
  | frozen f => rfl
  | executed f => rfl

theorem signWith_in_place (key : PublicKey) (signer : Bytes → Bytes) (t : Transaction) :
    signWith key signer t.record = t.outcome (t.signWith key signer) := by
  cases t with
  | draft d =>
    rw [signWith, Procedure.get_bind_apply]
    have hstate : (draft d).record.state = .mutable := rfl
    simp only [hstate]
    cases hd : d.freeze with
    | error e =>
      have hfailed : freeze (draft d).record = (.error e, (draft d).record) := by
        rw [freeze_in_place, Transaction.freeze, hd]
        rfl
      rw [Procedure.bind_of_error hfailed]
      simp only [Transaction.signWith, hd]
      rfl
    | ok f =>
      have hfrozen : freeze (draft d).record = (.ok (), (frozen f).record) := by
        rw [freeze_in_place, Transaction.freeze, hd]
        rfl
      rw [Procedure.bind_of_ok hfrozen]
      simp only [Transaction.signWith, hd]
      rfl
  | frozen f => rfl
  | executed f => rfl

theorem sign_in_place (key : PrivateKey) (t : Transaction) :
    sign key t.record = t.outcome (t.sign key) :=
  signWith_in_place key.publicKey _ t

/-! ### In the hands of a client -/

section Client

variable {ω κ : Type} (host : Host ω κ) (s : Session ω κ)

theorem onRecord_apply {α : Type} (p : Procedure Record α) (r : Record) :
    onRecord p (r, s) = ((p r).1, ((p r).2, s)) := rfl

theorem onSession_apply {α : Type} (m : Run ω κ (Except Error α)) (r : Record) :
    onSession m (r, s) = ((m s).1, (r, (m s).2)) := rfl

theorem freezeWith_in_place (t : Transaction) : freezeWith host (t.record, s) =
    ((t.outcome (t.freezeWith host s).1).1,
      ((t.outcome (t.freezeWith host s).1).2, (t.freezeWith host s).2)) := by
  cases t with
  | draft d =>
    rw [freezeWith, Procedure.get_bind_apply]
    have hstate : (draft d).record.state = .mutable := rfl
    have hdraft : (draft d).record.toDraft = d := rfl
    simp only [hstate, hdraft, Transaction.freezeWith, Draft.freezeWith, Run.bind_apply,
      Run.pure_apply]
    rcases hid : d.chooseId host s with ⟨id, s₁⟩
    have hchosen : onSession (d.chooseId host) ((draft d).record, s) =
        (id, ((draft d).record, s₁)) := by rw [onSession_apply, hid]
    cases id with
    | error e =>
      rw [Procedure.bind_of_error hchosen]
      rfl
    | ok id =>
      rw [Procedure.bind_of_ok hchosen]
      simp only [Run.bind_apply]
      rcases hnodes : d.chooseNodes host s₁ with ⟨nodes, s₂⟩
      have hsampled : onSession (d.chooseNodes host) ((draft d).record, s₁) =
          (nodes, ((draft d).record, s₂)) := by rw [onSession_apply, hnodes]
      cases nodes with
      | error e =>
        rw [Procedure.bind_of_error hsampled]
        rfl
      | ok nodes =>
        rw [Procedure.bind_of_ok hsampled, Procedure.get_bind_apply, onRecord_apply,
          commit_in_place]
        simp only [Run.bind_apply, Run.client_apply, Run.pure_apply]
        let fee := d.fee <|> s₂.client.settings.defaultFee
        cases (d.terms id (fee.getD Draft.defaultFee)).freezeFor nodes with
        | error e => rfl
        | ok f => rfl
  | frozen f => rfl
  | executed f => rfl

/-- The operator's signature, if it is the operator who pays. -/
theorem signForPayer_in_place (operator : Option Operator) (f : Frozen) :
    signForPayer operator (frozen f).record =
      (.ok (), (frozen (f.signByPayer operator)).record) := by
  cases operator with
  | none => rfl
  | some operator =>
    have hid : (frozen f).record.id = some f.terms.id := rfl
    rw [signForPayer, Procedure.get_bind_apply]
    by_cases hpays : f.terms.id.account.same operator.account = true
    · simp only [hid, if_pos hpays, Frozen.signByPayer]
      exact sign_in_place operator.key (frozen f)
    · simp only [hid, if_neg hpays, Frozen.signByPayer]
      rfl

theorem signWithOperator_in_place (t : Transaction) : signWithOperator host (t.record, s) =
    ((t.outcome (t.signWithOperator host s).1).1,
      ((t.outcome (t.signWithOperator host s).1).2, (t.signWithOperator host s).2)) := by
  rw [signWithOperator, Procedure.get_bind_apply]
  simp only [Transaction.signWithOperator, Run.bind_apply, Run.client_apply]
  cases s.client.operator with
  | none => rfl
  | some operator =>
    cases t with
    | draft d =>
      have hfreeze := freezeWith_in_place host s (draft d)
      have hstate : (draft d).record.state = .mutable := rfl
      simp only [Procedure.get_bind_apply, hstate, if_true]
      rcases hfrozen : (draft d).freezeWith host s with ⟨t, s'⟩
      rw [hfrozen] at hfreeze
      cases t with
      | error e =>
        rw [Procedure.bind_of_error hfreeze]
        simp only [Run.bind_apply, hfrozen]
        rfl
      | ok t =>
        obtain ⟨f, rfl⟩ := frozen_of_freezeWith host (congrArg Prod.fst hfrozen)
        rw [Procedure.bind_of_ok hfreeze]
        simp only [Run.bind_apply, hfrozen]
        rfl
    | frozen f => rfl
    | executed f => rfl

theorem execute_in_place (deadline : Option Moment) (t : Transaction) :
    execute host deadline (t.record, s) =
      ((t.execute host deadline s).1.1,
        ((t.execute host deadline s).1.2.record, (t.execute host deadline s).2)) := by
  by_cases hexecuted : t.record.state = .executed
  · cases t with
    | draft d => cases hexecuted
    | frozen f => cases hexecuted
    | executed f => rfl
  · rw [execute, Procedure.get_bind_apply]
    simp only [hexecuted, if_false, Transaction.execute, Run.bind_apply]
    have hfreeze := freezeWith_in_place host s t
    rcases hfrozen : t.freezeWith host s with ⟨u, s₁⟩
    rw [hfrozen] at hfreeze
    cases u with
    | error e =>
      rw [Procedure.bind_of_error hfreeze]
      rfl
    | ok u =>
      obtain ⟨f, rfl⟩ := frozen_of_freezeWith host (congrArg Prod.fst hfrozen)
      have hdone : freezeWith host (t.record, s) = (.ok (), ((frozen f).record, s₁)) := hfreeze
      let f' := f.signByPayer s₁.client.operator
      have hsigned : onRecord (signForPayer s₁.client.operator) ((frozen f).record, s₁) =
          (.ok (), ((frozen f').record, s₁)) := by
        rw [onRecord_apply, signForPayer_in_place]
      rw [Procedure.bind_of_ok hdone, Procedure.get_bind_apply, Procedure.bind_of_ok hsigned,
        Procedure.get_bind_apply]
      simp only [Run.bind_apply, Run.client_apply]
      rcases hrun : f'.inquiry.run host deadline s₁ with ⟨result, s₂⟩
      have hput : onSession ((frozen f').record.inquiry.run host deadline)
          ((frozen f').record, s₁) = (result, ((frozen f').record, s₂)) := by
        rw [onSession_apply]
        exact congrArg (fun r => (r.1, ((frozen f').record, r.2))) hrun
      cases result with
      | error e =>
        rw [Procedure.bind_of_error hput]
        rfl
      | ok acceptance =>
        rw [Procedure.bind_of_ok hput]
        rfl

end Client

end Record

/-! ## Calls in place -/

/-- A call in place does what the call does. -/
theorem Call.perform_record (t : Transaction) (c : Call) :
    c.perform t.record = ((c.run t).1, (c.run t).2.record) := by
  cases c with
  | setId | setNodes | setFee | setValidFor => exact Record.edit_in_place (fun d => rfl) t
  | setMemo memo => exact Record.assignMemo_in_place memo t
  | addHbar account amount => exact Record.addHbar_in_place account amount t
  | addToken token account amount => exact Record.addToken_in_place token account amount t
  | freeze => exact Record.freeze_in_place t
  | sign key => exact Record.sign_in_place key t
  | signWith key signer => exact Record.signWith_in_place key signer t
  | freezeWith host s =>
    simp only [perform, Record.freezeWith_in_place]
    rfl
  | signWithOperator host s =>
    simp only [perform, Record.signWithOperator_in_place]
    rfl
  | execute host deadline s =>
    simp only [perform, Record.execute_in_place]
    rfl

/-- The record after some calls in place, one after the other. -/
def Record.after (r : Record) (calls : List Call) : Record :=
  calls.foldl (fun r c => (c.perform r).2) r

theorem record_after (t : Transaction) (calls : List Call) :
    (t.after calls).record = t.record.after calls := by
  induction calls generalizing t with
  | nil => rfl
  | cons c calls ih =>
    have hstep : (c.perform t.record).2 = (c.run t).2.record :=
      congrArg Prod.snd (c.perform_record t)
    exact (ih _).trans (congrArg (Record.after · calls) hstep.symm)

end Transaction

end HbarKit
