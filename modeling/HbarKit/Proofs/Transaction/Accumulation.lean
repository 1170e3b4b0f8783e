import HbarKit.Proofs.Transaction.Calls

/-!
# Checksums of a transfer that is added to

Identifiers that mean one entity share an entry, and the entry keeps the checksum that it was first
named with. So a transfer is validated by its first mentions of every account and token, and what a
later mention carries is not looked at.
-/
namespace HbarKit

/-- All identifiers of a list validate on a ledger. -/
def EntityId.AllValid (l : Ledger) (ids : List EntityId) : Prop :=
  ∀ id ∈ ids, id.validate l = .ok ()

theorem EntityId.validateAll_eq_ok (ids : List EntityId) (l : Ledger) :
    validateAll ids l = .ok () ↔ AllValid l ids := forM_eq_ok

namespace Transfers

/-- An account that has no entry among some movements. -/
def newAccount (account : EntityId) (movements : List Movement) : List EntityId :=
  if movements.any fun m => m.account.same account then [] else [account]

/-- A token and an account, as far as they have no entries among the movements of tokens. -/
def newToken (token account : EntityId) (tokens : List TokenMovements) : List EntityId :=
  match tokens.find? fun l => l.token.same token with
  | some l => newAccount account l.movements
  | none => [token, account]

/-- The identifiers in the movements of tokens. -/
def tokenIds (tokens : List TokenMovements) : List EntityId :=
  tokens.flatMap fun l => l.token :: l.movements.map Movement.account

theorem newAccount_subset (account : EntityId) (movements : List Movement) :
    newAccount account movements ⊆ [account] := by
  unfold newAccount
  split <;> simp

/-- An added movement names its account unless the account has an entry. -/
theorem map_account_addTo {m : Movement} {movements added : List Movement}
    (h : addTo m movements = some added) :
    added.map Movement.account =
      movements.map Movement.account ++ newAccount m.account movements := by
  induction movements generalizing added with
  | nil =>
    cases h
    simp [newAccount]
  | cons entry rest ih =>
    cases hsame : entry.account.same m.account with
    | true =>
      rw [addTo, if_pos hsame, Option.map_eq_some_iff] at h
      obtain ⟨sum, _, rfl⟩ := h
      simp [newAccount, hsame]
    | false =>
      rw [addTo, if_neg (by simp [hsame]), Option.map_eq_some_iff] at h
      obtain ⟨tail, htail, rfl⟩ := h
      simp [newAccount, hsame, ih htail]

theorem mem_tokenIds_addToToken {token : EntityId} {m : Movement}
    {tokens added : List TokenMovements} (h : addToToken token m tokens = some added)
    (id : EntityId) :
    id ∈ tokenIds added ↔ id ∈ tokenIds tokens ∨ id ∈ newToken token m.account tokens := by
  induction tokens generalizing added with
  | nil =>
    cases h
    simp [tokenIds, newToken]
  | cons entry rest ih =>
    cases hsame : entry.token.same token with
    | true =>
      rw [addToToken, if_pos hsame, Option.map_eq_some_iff] at h
      obtain ⟨movements, hmovements, rfl⟩ := h
      simp only [tokenIds, newToken, List.flatMap_cons, List.find?_cons, hsame, List.mem_append,
        List.mem_cons, map_account_addTo hmovements]
      tauto
    | false =>
      rw [addToToken, if_neg (by simp [hsame]), Option.map_eq_some_iff] at h
      obtain ⟨tail, htail, rfl⟩ := h
      have hrest := ih htail
      simp only [tokenIds, newToken] at hrest ⊢
      simp only [List.flatMap_cons, List.find?_cons, hsame, List.mem_append, hrest]
      tauto

end Transfers

/-! ## Single additions -/

/-- A movement that a call adds to a transaction. -/
inductive Addition where
  | ofHbar (account : EntityId) (amount : Amount)
  | ofToken (token account : EntityId) (amount : Amount)

namespace Addition

/-- The call. -/
def call : Addition → Transaction.Call
  | .ofHbar account amount => .addHbar account amount
  | .ofToken token account amount => .addToken token account amount

/-- The identifiers that it is given. -/
def ids : Addition → List EntityId
  | .ofHbar account _ => [account]
  | .ofToken token account _ => [token, account]

/-- Those of them that have no entry in a transfer yet. -/
def newIds (t : Transfers) : Addition → List EntityId
  | .ofHbar account _ => Transfers.newAccount account t.hbars
  | .ofToken token account _ => Transfers.newToken token account t.tokens

theorem newIds_subset (a : Addition) (t : Transfers) : a.newIds t ⊆ a.ids := by
  cases a with
  | ofHbar account amount => exact Transfers.newAccount_subset account t.hbars
  | ofToken token account amount =>
    simp only [newIds, Transfers.newToken, ids]
    split
    · exact List.subset_cons_of_subset _ (Transfers.newAccount_subset account _)
    · exact List.Subset.refl _

/-- The transfer with the movement, if the sum is in range. -/
def addTo? (t : Transfers) : Addition → Option Transfers
  | .ofHbar account amount => t.addHbar? ⟨account, amount⟩
  | .ofToken token account amount => t.addToken? token ⟨account, amount⟩

theorem mem_ids_addTo? {a : Addition} {t t' : Transfers} (h : a.addTo? t = some t')
    (id : EntityId) : id ∈ t'.ids ↔ id ∈ t.ids ∨ id ∈ a.newIds t := by
  cases a with
  | ofHbar account amount =>
    rw [addTo?, Transfers.addHbar?, Option.map_eq_some_iff] at h
    obtain ⟨hbars, hadd, rfl⟩ := h
    simp only [Transfers.ids, newIds, List.mem_append, Transfers.map_account_addTo hadd]
    tauto
  | ofToken token account amount =>
    rw [addTo?, Transfers.addToken?, Option.map_eq_some_iff] at h
    obtain ⟨tokens, hadd, rfl⟩ := h
    have hmem := Transfers.mem_tokenIds_addToToken hadd id
    simp only [Transfers.tokenIds] at hmem
    simp only [Transfers.ids, newIds, List.mem_append, hmem]
    tauto

/-- A call adds the movement to a draft, or fails and leaves the transaction as it is. -/
theorem run_cases (a : Addition) (t : Transaction) :
    (∃ d transfers, t = .draft d ∧ a.addTo? d.transfers = some transfers ∧
      a.call.run t = (.ok (), .draft { d with transfers })) ∨
    ∃ e, a.call.run t = (.error e, t) := by
  cases t with
  | frozen f => exact .inr (by cases a <;> exact ⟨_, rfl⟩)
  | executed f => exact .inr (by cases a <;> exact ⟨_, rfl⟩)
  | draft d =>
    cases hadd : a.addTo? d.transfers with
    | some transfers =>
      refine .inl ⟨d, transfers, rfl, hadd, ?_⟩
      cases a with
      | ofHbar account amount =>
        simp only [addTo?] at hadd
        simp only [call, Transaction.Call.run, Transaction.addHbar, Transaction.edit,
          Draft.addHbar, hadd]
        rfl
      | ofToken token account amount =>
        simp only [addTo?] at hadd
        simp only [call, Transaction.Call.run, Transaction.addToken, Transaction.edit,
          Draft.addToken, hadd]
        rfl
    | none =>
      right
      cases a with
      | ofHbar account amount =>
        simp only [addTo?] at hadd
        simp only [call, Transaction.Call.run, Transaction.addHbar, Transaction.edit,
          Draft.addHbar, hadd]
        exact ⟨_, rfl⟩
      | ofToken token account amount =>
        simp only [addTo?] at hadd
        simp only [call, Transaction.Call.run, Transaction.addToken, Transaction.edit,
          Draft.addToken, hadd]
        exact ⟨_, rfl⟩

/-- A call that succeeds names what had no entry; one that fails names nothing. -/
theorem mem_ids_run (a : Addition) (t : Transaction) (id : EntityId) :
    id ∈ (a.call.run t).2.transfers.ids ↔
      id ∈ t.transfers.ids ∨ ((a.call.run t).1.isOk = true ∧ id ∈ a.newIds t.transfers) := by
  obtain ⟨d, transfers, rfl, hadd, hrun⟩ | ⟨e, hrun⟩ := a.run_cases t
  · rw [hrun]
    simpa [Except.isOk, Except.toBool, Transaction.transfers] using mem_ids_addTo? hadd id
  · rw [hrun]
    simp [Except.isOk, Except.toBool]

end Addition

/-! ## Rows of additions -/

namespace Transaction

/-- The transaction after some additions. -/
def adding (t : Transaction) (additions : List Addition) : Transaction :=
  t.after (additions.map Addition.call)

/-- Identifiers of those additions that succeed, each chosen by the transfer it adds to. -/
def collect (choose : Transfers → Addition → List EntityId) :
    Transaction → List Addition → List EntityId
  | _, [] => []
  | t, a :: rest =>
    (if (a.call.run t).1.isOk then choose t.transfers a else []) ++
      collect choose (a.call.run t).2 rest

/-- The identifiers given to additions that succeed. -/
def given : Transaction → List Addition → List EntityId := collect fun _ a => a.ids

/-- Those of them that name what had no entry. -/
def firstGiven : Transaction → List Addition → List EntityId := collect fun t a => a.newIds t

theorem mem_ids_adding (t : Transaction) (additions : List Addition) (id : EntityId) :
    id ∈ (t.adding additions).transfers.ids ↔
      id ∈ t.transfers.ids ∨ id ∈ t.firstGiven additions := by
  induction additions generalizing t with
  | nil => simp [adding, after, firstGiven, collect]
  | cons a rest ih =>
    have hrest := ih (a.call.run t).2
    rw [a.mem_ids_run t id] at hrest
    change id ∈ ((a.call.run t).2.adding rest).transfers.ids ↔ _
    rw [hrest]
    simp only [firstGiven, collect, List.mem_append]
    split
    · rename_i hok
      simp only [hok, true_and]
      tauto
    · rename_i hfail
      simp only [hfail]
      simp

theorem firstGiven_subset (t : Transaction) (additions : List Addition) :
    t.firstGiven additions ⊆ t.given additions := by
  induction additions generalizing t with
  | nil => simp [firstGiven, given, collect]
  | cons a rest ih =>
    intro id hid
    simp only [firstGiven, given, collect, List.mem_append] at hid ⊢
    obtain hid | hid := hid
    · left
      split at hid
      · rename_i hok
        rw [if_pos hok]
        exact a.newIds_subset _ hid
      · cases hid
    · right
      exact ih _ hid

theorem validate_adding (l : Ledger) (t : Transaction) (additions : List Addition) :
    (t.adding additions).transfers.validate l = .ok () ↔
      t.transfers.validate l = .ok () ∧ EntityId.AllValid l (t.firstGiven additions) := by
  simp only [Transfers.validate, EntityId.validateAll_eq_ok, EntityId.AllValid, mem_ids_adding]
  constructor
  · intro h
    exact ⟨fun id hid => h id (.inl hid), fun id hid => h id (.inr hid)⟩
  · rintro ⟨hbefore, hfirst⟩ id (hid | hid)
    · exact hbefore id hid
    · exact hfirst id hid

/-- Whether additions leave no identifier out: a transfer validates after them if and only if it did
before and all identifiers that were given validate. -/
def AddsUp (l : Ledger) (t : Transaction) (additions : List Addition) : Prop :=
  (t.adding additions).transfers.validate l = .ok () ↔
    t.transfers.validate l = .ok () ∧ EntityId.AllValid l (t.given additions)

/-- What is validated after additions are the identifiers of before and the first mentions. So no
identifier is left out if and only if, where these validate, all later mentions do. -/
theorem addsUp_iff (l : Ledger) (t : Transaction) (additions : List Addition) :
    ((t.adding additions).transfers.validate l = .ok () ↔
      t.transfers.validate l = .ok () ∧ EntityId.AllValid l (t.firstGiven additions)) ∧
    (AddsUp l t additions ↔
      (t.transfers.validate l = .ok () → EntityId.AllValid l (t.firstGiven additions) →
        EntityId.AllValid l (t.given additions))) := by
  refine ⟨validate_adding l t additions, ?_⟩
  rw [AddsUp, validate_adding]
  constructor
  · intro h hbefore hfirst
    exact (h.mp ⟨hbefore, hfirst⟩).2
  · intro h
    constructor
    · rintro ⟨hbefore, hfirst⟩
      exact ⟨hbefore, h hbefore hfirst⟩
    · rintro ⟨hbefore, hgiven⟩
      exact ⟨hbefore, fun id hid => hgiven id (t.firstGiven_subset additions hid)⟩

/-- An account that is named with a wrong checksum after it was named without one is not found
out. -/
theorem not_addsUp_named_again : ¬ AddsUp .mainnet .new
    [.ofHbar ⟨⟨0, 0, 5⟩, none⟩ 1, .ofHbar ⟨⟨0, 0, 5⟩, some "wrong"⟩ 2] := by
  intro h
  have hvalid : (Transaction.new.adding
      [.ofHbar ⟨⟨0, 0, 5⟩, none⟩ 1, .ofHbar ⟨⟨0, 0, 5⟩, some "wrong"⟩ 2]).transfers.validate
        .mainnet = .ok () := by
    decide +kernel
  have hwrong := (h.mp hvalid).2 ⟨⟨0, 0, 5⟩, some "wrong"⟩ (by decide +kernel)
  have hfails : EntityId.validate ⟨⟨0, 0, 5⟩, some "wrong"⟩ .mainnet ≠ .ok () := by
    decide +kernel
  exact hfails hwrong

end Transaction

end HbarKit
