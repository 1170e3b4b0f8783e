import HbarKit.Proofs.Transaction.Accumulation

/-!
# The books of a transfer

Whatever is added to a transfer and in whatever order, it has one entry for each account and one
group for each token, in the order in which they were first named, and an entry has the exact sum of
what was added to it. An addition fails only if this sum is out of range.
-/
namespace HbarKit

/-! ## First mentions -/

theorem eraseDups_concat (as : List Address) (a : Address) :
    (as ++ [a]).eraseDups = if a ∈ as then as.eraseDups else as.eraseDups ++ [a] := by
  rw [List.eraseDups_append]
  by_cases h : a ∈ as
  · simp [List.removeAll, h]
  · simp [List.removeAll, h, List.eraseDups_cons]

/-- What was named first, after one more. -/
theorem eraseDups_concat_of_eq {as firsts : List Address} (h : firsts = as.eraseDups)
    (a : Address) : (as ++ [a]).eraseDups = if a ∈ firsts then firsts else firsts ++ [a] := by
  rw [eraseDups_concat, h]
  simp only [List.mem_eraseDups]

theorem nodup_eraseDups (as : List Address) : as.eraseDups.Nodup := by
  induction as using List.reverseRecOn with
  | nil => simp
  | append_singleton as a ih =>
    rw [eraseDups_concat]
    by_cases h : a ∈ as
    · rwa [if_pos h]
    · rw [if_neg h]
      rw [← List.concat_eq_append]
      exact ih.concat (by rwa [List.mem_eraseDups])

theorem count_eraseDups {as : List Address} {a : Address} (h : a ∈ as) :
    as.eraseDups.count a = 1 :=
  List.count_eq_one_of_mem (nodup_eraseDups as) (List.mem_eraseDups.mpr h)

/-! ## Sums -/

theorem Amount.toInt_of_add? {a b sum : Amount} (h : a.add? b = some sum) :
    sum.toInt = a.toInt + b.toInt := by
  simp only [add?, ofInt?] at h
  split at h
  · rename_i hrange
    cases h
    have hleast : least = -2 ^ 63 := by decide
    have hgreatest : greatest = 2 ^ 63 - 1 := by decide
    exact Int64.toInt_ofInt_of_le (by omega) (by omega)
  · cases h

theorem Amount.add?_eq_none_iff {a b : Amount} : a.add? b = none ↔
    ¬ (least ≤ a.toInt + b.toInt ∧ a.toInt + b.toInt ≤ greatest) := by
  simp only [add?, ofInt?]
  split
  · simp_all
  · simp_all

namespace Transfers

/-- The addresses of the accounts of some movements. -/
def addresses (movements : List Movement) : List Address := movements.map fun m => m.account.address

/-- The exact sum of what some movements move for an account. -/
def total (account : Address) (movements : List Movement) : Int :=
  ((movements.filter fun m => m.account.address = account).map fun m => m.amount.toInt).sum

theorem total_concat (account : Address) (movements : List Movement) (m : Movement) :
    total account (movements ++ [m]) =
      total account movements + if m.account.address = account then m.amount.toInt else 0 := by
  by_cases h : m.account.address = account
  · simp [total, h]
  · simp [total, h]

theorem total_eq_zero {account : Address} {movements : List Movement}
    (h : account ∉ addresses movements) : total account movements = 0 := by
  have hnone : movements.filter (fun m => m.account.address = account) = [] := by
    rw [List.filter_eq_nil_iff]
    intro m hm hsame
    apply h
    rw [← of_decide_eq_true hsame]
    exact List.mem_map.mpr ⟨m, hm, rfl⟩
  rw [total, hnone]
  rfl

/-- The amount of the entry of an account. -/
def amountOf? (account : EntityId) (entries : List Movement) : Option Amount :=
  (entries.find? fun e => e.account.same account).map Movement.amount

/-- An addition to entries changes the amount of the first entry of its account, or puts a new entry
behind those of other accounts. -/
theorem addTo_cases (m : Movement) (entries : List Movement) :
    (∃ front entry back, entries = front ++ entry :: back ∧
      (∀ e ∈ front, e.account.address ≠ m.account.address) ∧
      entry.account.address = m.account.address ∧ amountOf? m.account entries = some entry.amount ∧
      addTo m entries = (entry.amount.add? m.amount).map fun sum =>
        front ++ ⟨entry.account, sum⟩ :: back) ∨
    (m.account.address ∉ addresses entries ∧ amountOf? m.account entries = none ∧
      addTo m entries = some (entries ++ [m])) := by
  induction entries with
  | nil => exact .inr ⟨by simp [addresses], rfl, rfl⟩
  | cons entry rest ih =>
    cases hsame : entry.account.same m.account with
    | true =>
      refine .inl ⟨[], entry, rest, rfl, by simp, beq_iff_eq.mp hsame, ?_, ?_⟩
      · simp [amountOf?, hsame]
      · rw [addTo, if_pos hsame]
        rfl
    | false =>
      have hother : entry.account.address ≠ m.account.address := beq_eq_false_iff_ne.mp hsame
      have hfind : amountOf? m.account (entry :: rest) = amountOf? m.account rest := by
        simp [amountOf?, hsame]
      rw [hfind, addTo, if_neg (by simp [hsame])]
      obtain ⟨front, found, back, rfl, hfront, hfound, hamount, hadd⟩ | ⟨hnew, hamount, hadd⟩ := ih
      · refine .inl ⟨entry :: front, found, back, rfl, ?_, hfound, hamount, ?_⟩
        · exact List.forall_mem_cons.mpr ⟨hother, hfront⟩
        · rw [hadd, Option.map_map]
          rfl
      · refine .inr ⟨?_, hamount, ?_⟩
        · intro hmem
          obtain hfirst | hrest := List.mem_cons.mp hmem
          · exact hother hfirst.symm
          · exact hnew hrest
        · rw [hadd]
          rfl

theorem addTo_eq_none_iff (m : Movement) (entries : List Movement) :
    addTo m entries = none ↔ ∃ amount, amountOf? m.account entries = some amount ∧
      ¬ (Amount.least ≤ amount.toInt + m.amount.toInt ∧
        amount.toInt + m.amount.toInt ≤ Amount.greatest) := by
  obtain ⟨front, entry, back, -, -, -, hamount, hadd⟩ | ⟨-, hamount, hadd⟩ := addTo_cases m entries
  · rw [hadd, hamount, Option.map_eq_none_iff, Amount.add?_eq_none_iff]
    simp
  · rw [hadd, hamount]
    simp

/-! ## Entries -/

/-- Entries that tally with what was asked and what was booked of that. -/
structure Tallied (asked booked entries : List Movement) : Prop where
  /-- An account that was named has one entry. -/
  once : ∀ m ∈ asked, (addresses entries).count m.account.address = 1
  /-- The entries are in the order in which their accounts were first named. -/
  order : addresses entries = (addresses asked).eraseDups
  /-- An entry has the exact sum of what was booked for its account. -/
  amounts : ∀ e ∈ entries, e.amount.toInt = total e.account.address booked

theorem tallied_of_order {asked booked entries : List Movement}
    (horder : addresses entries = (addresses asked).eraseDups)
    (hamounts : ∀ e ∈ entries, e.amount.toInt = total e.account.address booked) :
    Tallied asked booked entries where
  once m hm := by
    rw [horder]
    exact count_eraseDups (List.mem_map.mpr ⟨m, hm, rfl⟩)
  order := horder
  amounts := hamounts

namespace Tallied

variable {asked booked entries : List Movement} {m : Movement}

theorem addresses_nodup (h : Tallied asked booked entries) : (addresses entries).Nodup := by
  rw [h.order]
  exact nodup_eraseDups _

theorem mem_addresses (h : Tallied asked booked entries) {a : Address} :
    a ∈ addresses entries ↔ a ∈ addresses asked := by
  rw [h.order, List.mem_eraseDups]

theorem nil : Tallied [] [] [] := tallied_of_order rfl (by simp)

/-- The order of first mentions after one more. -/
theorem order_concat (h : Tallied asked booked entries) :
    (addresses (asked ++ [m])).eraseDups =
      if m.account.address ∈ addresses entries then addresses entries
      else addresses entries ++ [m.account.address] := by
  have hasked : addresses (asked ++ [m]) = addresses asked ++ [m.account.address] := by
    simp [addresses]
  rw [hasked, eraseDups_concat_of_eq h.order]

/-- What is booked is in an entry. -/
theorem addTo (h : Tallied asked booked entries) (hbooked : booked ⊆ asked)
    {entries' : List Movement} (hadd : Transfers.addTo m entries = some entries') :
    Tallied (asked ++ [m]) (booked ++ [m]) entries' := by
  obtain ⟨front, entry, back, rfl, hfront, hentry, -, hcase⟩ | ⟨hnew, -, hcase⟩ :=
    addTo_cases m entries
  · rw [hcase] at hadd
    obtain ⟨sum, hsum, rfl⟩ := Option.map_eq_some_iff.mp hadd
    have hnodup := h.addresses_nodup
    have haddresses : addresses (front ++ ⟨entry.account, sum⟩ :: back) =
        addresses (front ++ entry :: back) := by simp [addresses]
    have hmem : m.account.address ∈ addresses (front ++ entry :: back) := by
      simp [addresses, hentry]
    apply tallied_of_order
    · rw [h.order_concat, if_pos hmem, haddresses]
    · intro e he
      rw [List.mem_append, List.mem_cons] at he
      obtain he | rfl | he := he
      · rw [total_concat, if_neg (hfront e he).symm, Int.add_zero]
        exact h.amounts e (List.mem_append_left _ he)
      · rw [total_concat, if_pos hentry.symm, Amount.toInt_of_add? hsum]
        have hbefore := h.amounts entry (by simp)
        rw [hbefore]
      · have hother : e.account.address ≠ entry.account.address := by
          intro hsame
          rw [addresses, List.map_append, List.map_cons] at hnodup
          have hrest := (List.nodup_cons.mp hnodup.of_append_right).1
          exact hrest (List.mem_map.mpr ⟨e, he, hsame⟩)
        rw [hentry] at hother
        rw [total_concat, if_neg hother.symm, Int.add_zero]
        exact h.amounts e (by simp [he])
  · rw [hcase] at hadd
    cases hadd
    apply tallied_of_order
    · rw [h.order_concat, if_neg hnew]
      simp [addresses]
    · intro e he
      rw [List.mem_append, List.mem_singleton] at he
      obtain he | rfl := he
      · have hother : m.account.address ≠ e.account.address := by
          intro hsame
          rw [hsame] at hnew
          exact hnew (List.mem_map.mpr ⟨e, he, rfl⟩)
        rw [total_concat, if_neg hother, Int.add_zero]
        exact h.amounts e he
      · have hzero : total e.account.address booked = 0 := by
          apply total_eq_zero
          intro hmem
          exact hnew (h.mem_addresses.mpr (List.map_subset _ hbooked hmem))
        rw [total_concat, if_pos rfl, hzero, Int.zero_add]

/-- What is not booked has an entry anyway. -/
theorem not_addTo (h : Tallied asked booked entries) (hadd : Transfers.addTo m entries = none) :
    Tallied (asked ++ [m]) booked entries := by
  obtain ⟨front, entry, back, rfl, -, hentry, -⟩ | ⟨-, -, hcase⟩ := addTo_cases m entries
  · have hmem : m.account.address ∈ addresses (front ++ entry :: back) := by
      simp [addresses, hentry]
    apply tallied_of_order _ h.amounts
    rw [h.order_concat, if_pos hmem]
  · rw [hcase] at hadd
    cases hadd

end Tallied

/-! ## Groups -/

/-- What is for a token among what is for several tokens. -/
def ofToken (token : Address) (movements : List (Address × Movement)) : List Movement :=
  (movements.filter fun p => p.1 = token).map Prod.snd

theorem ofToken_concat_self (token : Address) (movements : List (Address × Movement))
    (m : Movement) :
    ofToken token (movements ++ [(token, m)]) = ofToken token movements ++ [m] := by
  simp [ofToken]

theorem ofToken_concat_of_ne {token other : Address} (h : other ≠ token)
    (movements : List (Address × Movement)) (m : Movement) :
    ofToken token (movements ++ [(other, m)]) = ofToken token movements := by
  simp [ofToken, h]

theorem ofToken_subset {movements movements' : List (Address × Movement)}
    (h : movements ⊆ movements') (token : Address) :
    ofToken token movements ⊆ ofToken token movements' :=
  List.map_subset _ fun _ hp => List.mem_filter.mpr ⟨h (List.mem_filter.mp hp).1,
    (List.mem_filter.mp hp).2⟩

theorem ofToken_eq_nil {token : Address} {movements : List (Address × Movement)}
    (h : token ∉ movements.map Prod.fst) : ofToken token movements = [] := by
  rw [ofToken, List.map_eq_nil_iff, List.filter_eq_nil_iff]
  intro p hp hsame
  exact h (List.mem_map.mpr ⟨p, hp, of_decide_eq_true hsame⟩)

/-- The addresses of the tokens of some groups. -/
def tokenAddresses (groups : List TokenMovements) : List Address :=
  groups.map fun g => g.token.address

/-- The amount of the entry of an account in the group of a token. -/
def tokenAmountOf? (token account : EntityId) (groups : List TokenMovements) : Option Amount :=
  (groups.find? fun g => g.token.same token).bind fun g => amountOf? account g.movements

/-- An addition to groups changes the first group of its token, or puts a new group behind those of
other tokens. -/
theorem addToToken_cases (token : EntityId) (m : Movement) (groups : List TokenMovements) :
    (∃ front group back, groups = front ++ group :: back ∧ group.token.address = token.address ∧
      tokenAmountOf? token m.account groups = amountOf? m.account group.movements ∧
      addToToken token m groups = (addTo m group.movements).map fun movements =>
        front ++ ⟨group.token, movements⟩ :: back) ∨
    (token.address ∉ tokenAddresses groups ∧ tokenAmountOf? token m.account groups = none ∧
      addToToken token m groups = some (groups ++ [⟨token, [m]⟩])) := by
  induction groups with
  | nil => exact .inr ⟨by simp [tokenAddresses], rfl, rfl⟩
  | cons group rest ih =>
    cases hsame : group.token.same token with
    | true =>
      refine .inl ⟨[], group, rest, rfl, beq_iff_eq.mp hsame, ?_, ?_⟩
      · simp [tokenAmountOf?, hsame]
      · rw [addToToken, if_pos hsame]
        rfl
    | false =>
      have hother : group.token.address ≠ token.address := beq_eq_false_iff_ne.mp hsame
      have hfind : tokenAmountOf? token m.account (group :: rest) =
          tokenAmountOf? token m.account rest := by
        simp [tokenAmountOf?, hsame]
      rw [hfind, addToToken, if_neg (by simp [hsame])]
      obtain ⟨front, found, back, rfl, hfound, hamount, hadd⟩ | ⟨hnew, hamount, hadd⟩ := ih
      · refine .inl ⟨group :: front, found, back, rfl, hfound, hamount, ?_⟩
        rw [hadd, Option.map_map]
        rfl
      · refine .inr ⟨?_, hamount, ?_⟩
        · intro hmem
          obtain hfirst | hrest := List.mem_cons.mp hmem
          · exact hother hfirst.symm
          · exact hnew hrest
        · rw [hadd]
          rfl

theorem addToToken_eq_none_iff (token : EntityId) (m : Movement) (groups : List TokenMovements) :
    addToToken token m groups = none ↔
      ∃ amount, tokenAmountOf? token m.account groups = some amount ∧
        ¬ (Amount.least ≤ amount.toInt + m.amount.toInt ∧
          amount.toInt + m.amount.toInt ≤ Amount.greatest) := by
  obtain ⟨front, group, back, -, -, hamount, hadd⟩ | ⟨-, hamount, hadd⟩ :=
    addToToken_cases token m groups
  · rw [hadd, hamount, Option.map_eq_none_iff, addTo_eq_none_iff]
  · rw [hadd, hamount]
    simp

/-- Groups that tally with what was asked and what was booked of that. -/
structure GroupsTallied (asked booked : List (Address × Movement)) (groups : List TokenMovements) :
    Prop where
  /-- A token that was named has one group. -/
  once : ∀ p ∈ asked, (tokenAddresses groups).count p.1 = 1
  /-- The groups are in the order in which their tokens were first named. -/
  order : tokenAddresses groups = (asked.map Prod.fst).eraseDups
  /-- The entries of a group tally with what is for its token. -/
  entries : ∀ g ∈ groups,
    Tallied (ofToken g.token.address asked) (ofToken g.token.address booked) g.movements

theorem groupsTallied_of_order {asked booked : List (Address × Movement)}
    {groups : List TokenMovements}
    (horder : tokenAddresses groups = (asked.map Prod.fst).eraseDups)
    (hentries : ∀ g ∈ groups,
      Tallied (ofToken g.token.address asked) (ofToken g.token.address booked) g.movements) :
    GroupsTallied asked booked groups where
  once p hp := by
    rw [horder]
    exact count_eraseDups (List.mem_map_of_mem hp)
  order := horder
  entries := hentries

namespace GroupsTallied

variable {asked booked : List (Address × Movement)} {groups : List TokenMovements}
  {token : EntityId} {m : Movement}

theorem addresses_nodup (h : GroupsTallied asked booked groups) :
    (tokenAddresses groups).Nodup := by
  rw [h.order]
  exact nodup_eraseDups _

theorem nil : GroupsTallied [] [] [] := groupsTallied_of_order rfl (by simp)

/-- The order of first mentions after one more. -/
theorem order_concat (h : GroupsTallied asked booked groups) :
    ((asked ++ [(token.address, m)]).map Prod.fst).eraseDups =
      if token.address ∈ tokenAddresses groups then tokenAddresses groups
      else tokenAddresses groups ++ [token.address] := by
  rw [List.map_append, List.map_singleton, eraseDups_concat_of_eq h.order]

/-- A group of the token in its place, whose entries tally, while no other token is concerned. -/
theorem replace {front back : List TokenMovements} {group : TokenMovements}
    (h : GroupsTallied asked booked (front ++ group :: back))
    (hgroup : group.token.address = token.address) {booked' : List (Address × Movement)}
    (hother : ∀ t, token.address ≠ t → ofToken t booked' = ofToken t booked)
    {movements : List Movement}
    (htallied : Tallied (ofToken token.address asked ++ [m]) (ofToken token.address booked')
      movements) :
    GroupsTallied (asked ++ [(token.address, m)]) booked'
      (front ++ ⟨group.token, movements⟩ :: back) := by
  have hnodup := h.addresses_nodup
  rw [tokenAddresses, List.map_append, List.map_cons, List.nodup_append] at hnodup
  obtain ⟨-, hback, hfront⟩ := hnodup
  have hbefore : ∀ g ∈ front ++ group :: back, token.address ≠ g.token.address →
      Tallied (ofToken g.token.address (asked ++ [(token.address, m)]))
        (ofToken g.token.address booked') g.movements := by
    intro g hg hne
    rw [ofToken_concat_of_ne hne, hother _ hne]
    exact h.entries g hg
  apply groupsTallied_of_order
  · have hmem : token.address ∈ tokenAddresses (front ++ group :: back) := by
      simp [tokenAddresses, hgroup]
    rw [h.order_concat, if_pos hmem]
    simp [tokenAddresses]
  · intro g hg
    rw [List.mem_append, List.mem_cons] at hg
    obtain hg | rfl | hg := hg
    · apply hbefore g (List.mem_append_left _ hg)
      rw [← hgroup]
      exact (hfront _ (List.mem_map.mpr ⟨g, hg, rfl⟩) _ List.mem_cons_self).symm
    · rw [hgroup, ofToken_concat_self]
      exact htallied
    · apply hbefore g (by simp [hg])
      rw [← hgroup]
      intro hsame
      exact (List.nodup_cons.mp hback).1 (List.mem_map.mpr ⟨g, hg, hsame.symm⟩)

/-- What is booked is in an entry of the group of its token. -/
theorem addToToken (h : GroupsTallied asked booked groups) (hbooked : booked ⊆ asked)
    {groups' : List TokenMovements} (hadd : Transfers.addToToken token m groups = some groups') :
    GroupsTallied (asked ++ [(token.address, m)]) (booked ++ [(token.address, m)]) groups' := by
  obtain ⟨front, group, back, rfl, hgroup, -, hcase⟩ | ⟨hnew, -, hcase⟩ :=
    addToToken_cases token m groups
  · rw [hcase] at hadd
    obtain ⟨movements, hmovements, rfl⟩ := Option.map_eq_some_iff.mp hadd
    have htallied := (h.entries group (by simp)).addTo (ofToken_subset hbooked _) hmovements
    rw [hgroup] at htallied
    apply h.replace hgroup
    · intro t hne
      exact ofToken_concat_of_ne hne booked m
    · rwa [ofToken_concat_self]
  · rw [hcase] at hadd
    cases hadd
    have hasked : token.address ∉ asked.map Prod.fst := by
      rwa [h.order, List.mem_eraseDups] at hnew
    apply groupsTallied_of_order
    · rw [h.order_concat, if_neg hnew]
      simp [tokenAddresses]
    · intro g hg
      rw [List.mem_append, List.mem_singleton] at hg
      obtain hg | rfl := hg
      · have hne : token.address ≠ g.token.address := by
          intro hsame
          rw [hsame] at hnew
          exact hnew (List.mem_map.mpr ⟨g, hg, rfl⟩)
        rw [ofToken_concat_of_ne hne, ofToken_concat_of_ne hne]
        exact h.entries g hg
      · have hnone : token.address ∉ booked.map Prod.fst := fun hmem =>
          hasked (List.map_subset _ hbooked hmem)
        rw [ofToken_concat_self, ofToken_concat_self, ofToken_eq_nil hasked, ofToken_eq_nil hnone]
        exact Tallied.nil.addTo (List.nil_subset _) rfl

/-- What is not booked has an entry in a group anyway. -/
theorem not_addToToken (h : GroupsTallied asked booked groups)
    (hadd : Transfers.addToToken token m groups = none) :
    GroupsTallied (asked ++ [(token.address, m)]) booked groups := by
  obtain ⟨front, group, back, rfl, hgroup, -, hcase⟩ | ⟨-, -, hcase⟩ :=
    addToToken_cases token m groups
  · rw [hcase, Option.map_eq_none_iff] at hadd
    have htallied := (h.entries group (by simp)).not_addTo hadd
    rw [hgroup] at htallied
    exact h.replace hgroup (fun _ _ => rfl) htallied
  · rw [hcase] at hadd
    cases hadd

end GroupsTallied

end Transfers

/-! ## Rows of additions -/

namespace Addition

/-- What it moves, if it moves the currency. -/
def hbar? : Addition → Option Movement
  | .ofHbar account amount => some ⟨account, amount⟩
  | .ofToken _ _ _ => none

/-- The token and what it moves of it, if it moves a token. -/
def token? : Addition → Option (Address × Movement)
  | .ofHbar _ _ => none
  | .ofToken token account amount => some (token.address, ⟨account, amount⟩)

/-- The account that it names. -/
def account : Addition → EntityId
  | .ofHbar account _ | .ofToken _ account _ => account

/-- The amount that it adds. -/
def amount : Addition → Amount
  | .ofHbar _ amount | .ofToken _ _ amount => amount

/-- The amount that is there for it to be added to. -/
def current? (t : Transfers) : Addition → Option Amount
  | .ofHbar account _ => Transfers.amountOf? account t.hbars
  | .ofToken token account _ => Transfers.tokenAmountOf? token account t.tokens

/-- Whether the sum with the amount that is there is out of range. -/
def Overflows (t : Transfers) (a : Addition) : Prop :=
  ∃ current, a.current? t = some current ∧
    ¬ (Amount.least ≤ current.toInt + a.amount.toInt ∧
      current.toInt + a.amount.toInt ≤ Amount.greatest)

theorem addTo?_eq_none_iff (t : Transfers) (a : Addition) : a.addTo? t = none ↔ a.Overflows t := by
  cases a with
  | ofHbar account amount =>
    rw [addTo?, Transfers.addHbar?, Option.map_eq_none_iff, Transfers.addTo_eq_none_iff]
    rfl
  | ofToken token account amount =>
    rw [addTo?, Transfers.addToken?, Option.map_eq_none_iff, Transfers.addToToken_eq_none_iff]
    rfl

/-- What a call does to a draft. -/
theorem run_draft (a : Addition) (d : Draft) : a.call.run (.draft d) =
    match a.addTo? d.transfers with
    | some transfers => (.ok (), .draft { d with transfers })
    | none => (.error (.overflow a.account), .draft d) := by
  cases a with
  | ofHbar account amount =>
    simp only [call, Transaction.Call.run, Transaction.addHbar, Transaction.edit, Draft.addHbar,
      addTo?]
    cases d.transfers.addHbar? ⟨account, amount⟩ with
    | some transfers => rfl
    | none => rfl
  | ofToken token account amount =>
    simp only [call, Transaction.Call.run, Transaction.addToken, Transaction.edit, Draft.addToken,
      addTo?]
    cases d.transfers.addToken? token ⟨account, amount⟩ with
    | some transfers => rfl
    | none => rfl

end Addition

/-- A transfer that tallies with the additions that were asked for and those that were booked. -/
structure Transfers.Books (asked booked : List Addition) (t : Transfers) : Prop where
  hbars : Tallied (asked.filterMap Addition.hbar?) (booked.filterMap Addition.hbar?) t.hbars
  tokens : GroupsTallied (asked.filterMap Addition.token?) (booked.filterMap Addition.token?)
    t.tokens

namespace Transfers.Books

variable {asked booked : List Addition} {t : Transfers} {a : Addition}

theorem nil : Books [] [] .empty := ⟨.nil, .nil⟩

theorem addTo? (h : Books asked booked t) (hbooked : booked ⊆ asked) {t' : Transfers}
    (hadd : a.addTo? t = some t') : Books (asked ++ [a]) (booked ++ [a]) t' := by
  cases a with
  | ofHbar account amount =>
    obtain ⟨hbars, hhbars, rfl⟩ := Option.map_eq_some_iff.mp hadd
    constructor
    · simpa [Addition.hbar?] using h.hbars.addTo (List.filterMap_subset _ hbooked) hhbars
    · simpa [Addition.token?, List.filterMap_cons] using h.tokens
  | ofToken token account amount =>
    obtain ⟨tokens, htokens, rfl⟩ := Option.map_eq_some_iff.mp hadd
    constructor
    · simpa [Addition.hbar?, List.filterMap_cons] using h.hbars
    · simpa [Addition.token?] using h.tokens.addToToken (List.filterMap_subset _ hbooked) htokens

theorem not_addTo? (h : Books asked booked t) (hadd : a.addTo? t = none) :
    Books (asked ++ [a]) booked t := by
  cases a with
  | ofHbar account amount =>
    constructor
    · simpa [Addition.hbar?] using h.hbars.not_addTo (Option.map_eq_none_iff.mp hadd)
    · simpa [Addition.token?, List.filterMap_cons] using h.tokens
  | ofToken token account amount =>
    constructor
    · simpa [Addition.hbar?, List.filterMap_cons] using h.hbars
    · simpa [Addition.token?] using h.tokens.not_addToToken (Option.map_eq_none_iff.mp hadd)

end Transfers.Books

namespace Transaction

/-- The additions that succeed. -/
def booked : Transaction → List Addition → List Addition
  | _, [] => []
  | t, a :: rest => (if (a.call.run t).1.isOk then [a] else []) ++ booked (a.call.run t).2 rest

theorem booked_concat (t : Transaction) (asked : List Addition) (a : Addition) :
    t.booked (asked ++ [a]) =
      t.booked asked ++ if (a.call.run (t.adding asked)).1.isOk then [a] else [] := by
  induction asked generalizing t with
  | nil => simp [booked, adding, after]
  | cons b rest ih =>
    have hrest := ih (b.call.run t).2
    simp only [List.cons_append, booked, List.append_assoc, hrest]
    rfl

theorem adding_concat (t : Transaction) (asked : List Addition) (a : Addition) :
    t.adding (asked ++ [a]) = (a.call.run (t.adding asked)).2 := by
  simp [adding, after]

theorem booked_subset (t : Transaction) (asked : List Addition) : t.booked asked ⊆ asked := by
  induction asked using List.reverseRecOn with
  | nil => simp [booked]
  | append_singleton asked a ih =>
    rw [booked_concat]
    split
    · exact List.append_subset.mpr ⟨List.subset_append_of_subset_left _ ih, by simp⟩
    · rw [List.append_nil]
      exact List.subset_append_of_subset_left _ ih

/-- After any additions to a draft that moves nothing the books tally. -/
theorem exists_books (d : Draft) (asked : List Addition) :
    ∃ t, (draft { d with transfers := .empty }).adding asked = draft { d with transfers := t } ∧
      t.Books asked ((draft { d with transfers := .empty }).booked asked) := by
  induction asked using List.reverseRecOn with
  | nil => exact ⟨.empty, rfl, .nil⟩
  | append_singleton asked a ih =>
    obtain ⟨t, ht, hbooks⟩ := ih
    have hrun := a.run_draft { d with transfers := t }
    rw [adding_concat, booked_concat, ht]
    cases hadd : a.addTo? t with
    | some t' =>
      simp only [hadd] at hrun
      rw [hrun]
      exact ⟨t', rfl, hbooks.addTo? (booked_subset _ asked) hadd⟩
    | none =>
      simp only [hadd] at hrun
      rw [hrun]
      refine ⟨t, rfl, ?_⟩
      simpa [Except.isOk, Except.toBool] using hbooks.not_addTo? hadd

/-! ## Getters -/

theorem putEntry_of_new {α : Type} {node : EntityId} {entries : List (EntityId × α)}
    (h : ∀ e ∈ entries, e.1.address ≠ node.address) (a : α) :
    putEntry node a entries = entries ++ [(node, a)] := by
  induction entries with
  | nil => rfl
  | cons entry rest ih =>
    obtain ⟨hentry, hrest⟩ := List.forall_mem_cons.mp h
    have hother : entry.1.same node = false := beq_eq_false_iff_ne.mpr hentry
    rw [putEntry, if_neg (by simp [hother]), ih hrest]
    rfl

/-- A map of distinct entries holds each of them. -/
theorem foldl_putEntry {α β : Type} (key : β → EntityId) (value : β → α) {items : List β}
    (h : (items.map fun b => (key b).address).Nodup) :
    items.foldl (fun all b => putEntry (key b) (value b) all) [] =
      items.map fun b => (key b, value b) := by
  induction items using List.reverseRecOn with
  | nil => rfl
  | append_singleton items b ih =>
    rw [List.map_append, List.nodup_append] at h
    obtain ⟨hitems, -, hnew⟩ := h
    rw [List.foldl_append, ih hitems, List.foldl_cons, List.foldl_nil, putEntry_of_new]
    · rw [List.map_append, List.map_singleton]
    · intro e he
      obtain ⟨b', hb', rfl⟩ := List.mem_map.mp he
      exact hnew _ (List.mem_map.mpr ⟨b', hb', rfl⟩) _ (by simp)

theorem amounts_of_tallied {asked booked entries : List Movement}
    (h : Transfers.Tallied asked booked entries) :
    amounts entries = entries.map fun e => (e.account, e.amount) :=
  foldl_putEntry Movement.account Movement.amount h.addresses_nodup

theorem tokenAmounts_of_books {asked booked : List Addition} {t : Transaction}
    (h : t.transfers.Books asked booked) :
    t.tokenAmounts = t.transfers.tokens.map fun g =>
      (g.token, g.movements.map fun e => (e.account, e.amount)) := by
  rw [tokenAmounts, foldl_putEntry _ _ h.tokens.addresses_nodup]
  apply List.map_congr_left
  intro g hg
  rw [amounts_of_tallied (h.tokens.entries g hg)]

/-- Whatever is added to a draft that moves nothing, its transfer tallies with what succeeded. The
next addition fails if and only if there is an entry for it and the sum is out of range, and then
changes nothing. The getters tell the entries. -/
theorem books_after_additions (d : Draft) (asked : List Addition) :
    ∃ t : Transfers,
      (draft { d with transfers := .empty }).adding asked = draft { d with transfers := t } ∧
      t.Books asked ((draft { d with transfers := .empty }).booked asked) ∧
      (∀ a : Addition,
        (a.Overflows t → a.call.run (draft { d with transfers := t }) =
          (.error (.overflow a.account), draft { d with transfers := t })) ∧
        (¬ a.Overflows t → (a.call.run (draft { d with transfers := t })).1 = .ok ())) ∧
      (draft { d with transfers := t }).hbarAmounts =
        t.hbars.map (fun e => (e.account, e.amount)) ∧
      (draft { d with transfers := t }).tokenAmounts =
        t.tokens.map fun g => (g.token, g.movements.map fun e => (e.account, e.amount)) := by
  obtain ⟨t, ht, hbooks⟩ := exists_books d asked
  refine ⟨t, ht, hbooks, fun a => ?_, ?_, ?_⟩
  · have hrun := a.run_draft { d with transfers := t }
    constructor
    · intro hoverflows
      simp only [(a.addTo?_eq_none_iff t).mpr hoverflows] at hrun
      exact hrun
    · intro hfits
      rw [← a.addTo?_eq_none_iff] at hfits
      obtain ⟨t', hadd⟩ := Option.ne_none_iff_exists'.mp hfits
      simp only [hadd] at hrun
      rw [hrun]
  · exact amounts_of_tallied hbooks.hbars
  · exact tokenAmounts_of_books hbooks

end Transaction

end HbarKit
