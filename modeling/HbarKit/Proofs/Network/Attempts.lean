import HbarKit.Proofs.Network.Phases

/-!
# Attempts of an inquiry

An attempt turns to one node at most, and all its connections and messages are for that node. The
attempts of an inquiry follow each other, the next one in the session that the pause behind the last
one leaves. A log tells the attempts apart by the looks whether the caller asked to stop, of which
each attempt begins with one: what went where in which attempt can be read off it, and it is what
the sessions tell.
-/
namespace HbarKit

open Run

variable {ω κ α : Type}

/-! ## Pursuits -/

/-- An inquiry put to some nodes by some settings and up to a deadline, from a session and a moment
on. -/
structure Pursuit (ω κ α : Type) where
  host : Host ω κ
  inquiry : Inquiry α
  settings : Settings
  nodes : List Node
  deadline : Option Moment
  start : Moment
  first : Session ω κ

namespace Pursuit

variable (p : Pursuit ω κ α)

/-- The attempt after `turn` others. -/
def attempt (turn : Nat) : Run ω κ (Attempt α) :=
  p.inquiry.attempt p.host p.settings p.nodes p.deadline p.start turn

/-- The node that the attempt after `turn` others turns to in a session, unless it ends before that.
-/
def contact? (turn : Nat) (s : Session ω κ) : Option Node :=
  (p.inquiry.ask p.host p.settings p.nodes p.deadline p.start turn s).1.toOption.map Reply.node

/-- The session behind the attempt after `turn` others and the pause after it, if the attempt failed
and there is time for another one and no reason to stop. -/
def next? (turn : Nat) (s : Session ω κ) : Option (Session ω κ) :=
  match p.attempt turn s with
  | (.ended _, _) => none
  | (.failed last, s) =>
    let (now, s) := outside p.host.now s
    match Inquiry.outOfTime? p.settings (now - p.start) (p.settings.backoff (turn + 1)) last with
    | some _ => none
    | none =>
      match Inquiry.pause p.host p.deadline (p.settings.backoff (turn + 1)) s with
      | (some _, _) => none
      | (none, s) => some s

/-- The session in which the attempt after `turn` others begins, if it does. -/
def session? : (turn : Nat) → Option (Session ω κ)
  | 0 => some p.first
  | turn + 1 =>
    if turn + 1 < p.settings.maxAttempts then (session? turn).bind (p.next? turn) else none

/-- The attempts from the one after `turn` others on, with `left` attempts behind it. -/
def attempts (left turn : Nat) : Run ω κ (Except Error α) :=
  p.inquiry.attempts p.host p.settings p.nodes p.deadline p.start left turn

/-- The attempt after `turn` others begins, and turns to a node at an address. -/
def Contacts (turn : Nat) (address : String) : Prop :=
  ∃ s node, p.session? turn = some s ∧ p.contact? turn s = some node ∧ node.address = address

variable {p}

/-- Behind the last attempt there is none. -/
theorem session?_eq_none_of_le {turn later : Nat} (h : p.session? turn = none)
    (hle : turn ≤ later) : p.session? later = none := by
  induction hle with
  | refl => exact h
  | step _ ih =>
    rw [session?, ih]
    simp

theorem not_contacts_of_none {turn later : Nat} (h : p.session? turn = none) (hle : turn ≤ later)
    (address : String) : ¬ p.Contacts later address := by
  rintro ⟨s, node, hs, -⟩
  rw [session?_eq_none_of_le h hle] at hs
  cases hs

/-- The log of an attempt and of a lull behind it, when `rest` tells of the attempts that follow. -/
theorem reaches_of_visit {turn n : Nat} {s : Session ω κ} {visit lull rest : List Event}
    {address : String} (hs : p.session? turn = some s)
    (hvisit : Inquiry.Visit (p.contact? turn s) visit) (hlull : Lull lull)
    (hrest : Reaches (turn + 1) rest n address ↔
      ∃ later, turn + 1 ≤ later ∧ n = later + 1 ∧ p.Contacts later address) :
    Reaches turn (visit ++ (lull ++ rest)) n address ↔
      ∃ later, turn ≤ later ∧ n = later + 1 ∧ p.Contacts later address := by
  have hcontact : (∃ node, p.contact? turn s = some node ∧ node.address = address) ↔
      p.Contacts turn address := by
    constructor
    · rintro ⟨node, hnode, haddress⟩
      exact ⟨s, node, hs, hnode, haddress⟩
    · rintro ⟨s', node, hs', hnode, haddress⟩
      rw [hs] at hs'
      cases hs'
      exact ⟨node, hnode, haddress⟩
  rw [reaches_append, reaches_append, hvisit.reaches_iff, hvisit.looks, hlull.looks, Nat.add_zero,
    or_iff_right (reaches_of_lull hlull), hrest, hcontact]
  constructor
  · rintro (⟨hn, hcontacts⟩ | ⟨later, hle, hn, hcontacts⟩)
    · exact ⟨turn, le_rfl, hn, hcontacts⟩
    · exact ⟨later, by omega, hn, hcontacts⟩
  · rintro ⟨later, hle, hn, hcontacts⟩
    obtain rfl | hlt := Nat.eq_or_lt_of_le hle
    · exact .inl ⟨hn, hcontacts⟩
    · exact .inr ⟨later, hlt, hn, hcontacts⟩

/-- So it is when no attempt follows. -/
theorem reaches_of_visit_last {turn n : Nat} {s : Session ω κ} {visit lull : List Event}
    {address : String} (hs : p.session? turn = some s)
    (hvisit : Inquiry.Visit (p.contact? turn s) visit) (hlull : Lull lull)
    (hnone : p.session? (turn + 1) = none) :
    Reaches turn (visit ++ lull) n address ↔
      ∃ later, turn ≤ later ∧ n = later + 1 ∧ p.Contacts later address := by
  rw [← List.append_nil lull]
  apply reaches_of_visit hs hvisit hlull
  constructor
  · intro h
    exact absurd h (reaches_of_lull lull_nil)
  · rintro ⟨later, hle, -, hcontacts⟩
    exact absurd hcontacts (not_contacts_of_none hnone hle address)

/-- Attempt after attempt, the log tells what the sessions tell. -/
theorem adds_attempts_reaches (hne : p.nodes ≠ []) {left turn : Nat} {s : Session ω κ}
    (hs : p.session? turn = some s) (hleft : left + turn = p.settings.maxAttempts - 1) :
    Adds id (p.inquiry.attempts p.host.recorded p.settings p.nodes p.deadline p.start left turn)
      (p.attempts left turn) s
      fun added _ => ∀ n address, Reaches turn added n address ↔
        ∃ later, turn ≤ later ∧ n = later + 1 ∧ p.Contacts later address := by
  induction left generalizing turn s with
  | zero =>
    have hnext : p.session? (turn + 1) = none := by
      rw [session?, if_neg (by omega)]
    rw [attempts, Inquiry.attempts, Inquiry.attempts]
    apply (Inquiry.adds_attempt p.host s p.inquiry _ hne _ _ turn).bind
    rintro visit a s' - ⟨-, hvisit⟩
    cases a with
    | _ => exact adds_pure id _ fun n address => reaches_of_visit_last hs hvisit lull_nil hnext
  | succ left ih =>
    have hnext : p.session? (turn + 1) = p.next? turn s := by
      rw [session?, if_pos (by omega), hs, Option.bind_some]
    rw [next?] at hnext
    rw [attempts, Inquiry.attempts, Inquiry.attempts]
    apply (Inquiry.adds_attempt p.host s p.inquiry _ hne _ _ turn).bind
    rintro visit a s' hattempt ⟨-, hvisit⟩
    have hattempt : p.attempt turn s = (a, s') := hattempt
    rw [hattempt] at hnext
    cases a with
    | ended result =>
      exact adds_pure id _ fun n address => reaches_of_visit_last hs hvisit lull_nil hnext
    | failed last =>
      apply (adds_now p.host s').bind
      rintro _ t s'' ht rfl
      simp only [ht] at hnext
      simp only [id]
      cases htime :
        Inquiry.outOfTime? p.settings (t - p.start) (p.settings.backoff (turn + 1)) last with
      | some e =>
        simp only [htime] at hnext
        exact adds_pure id _ fun n address => reaches_of_visit_last hs hvisit (lull_now t) hnext
      | none =>
        simp only [htime] at hnext
        apply (Inquiry.adds_pause p.host s'' p.deadline _).bind
        intro pause stop s''' hstop hpause
        have hlull := (lull_now t).append (Inquiry.lull_of_paused hpause)
        simp only [hstop] at hnext
        cases stop with
        | some e =>
          refine adds_pure id _ fun n address => ?_
          rw [List.append_nil]
          exact reaches_of_visit_last hs hvisit hlull hnext
        | none =>
          apply (ih hnext (by omega)).mono
          intro rest result hrest n address
          rw [← List.append_assoc [Event.now t]]
          exact reaches_of_visit hs hvisit hlull (hrest n address)

end Pursuit

/-! ## Inquiries -/

namespace Inquiry

variable (host : Host ω κ) (q : Inquiry α) (deadline : Option Moment) (s : Session ω κ)

/-- What becomes of an inquiry that is let through and finds nodes to ask. -/
def pursuit? : Option (Pursuit ω κ α) :=
  match q.check s.client, q.candidates host s with
  | .ok (), (.ok nodes, s') => some
    { host
      inquiry := q
      settings := s.client.settings
      nodes
      deadline
      start := (host.now s'.outside).1
      first := (outside host.now s').2 }
  | _, _ => none

theorem run_of_pursuit? {p : Pursuit ω κ α} (h : q.pursuit? host deadline s = some p) :
    q.run host deadline s = p.attempts (p.settings.maxAttempts - 1) 0 p.first := by
  unfold pursuit? at h
  split at h
  · rename_i nodes s' hcheck hcandidates
    cases h
    simp only [run, bind_apply, client_apply, hcheck, hcandidates]
    rfl
  · cases h

/-- Where a pursuit begins: with the nodes that were found, after a look at the clock, with the
client as it was. -/
theorem pursuit?_eq_some {p : Pursuit ω κ α} (h : q.pursuit? host deadline s = some p) :
    p.host = host ∧ (q.candidates host s).1 = .ok p.nodes ∧
      outside host.now (q.candidates host s).2 = (p.start, p.first) ∧
      p.first.client = s.client := by
  have hclient := (passive_candidates host q).client_eq s
  unfold pursuit? at h
  split at h
  · rename_i nodes s' hcheck hcandidates
    rw [hcandidates] at hclient ⊢
    cases h
    exact ⟨rfl, rfl, rfl, hclient⟩
  · cases h

/-- What an inquiry reaches and in which of its attempts is what its sessions tell. -/
theorem adds_run_reaches :
    Adds id (q.run host.recorded deadline) (q.run host deadline) s
      fun log _ => ∀ n address, Reaches 0 log n address ↔
        ∃ p turn, q.pursuit? host deadline s = some p ∧ n = turn + 1 ∧ p.Contacts turn address := by
  apply adds_client_bind
  have hlabelled : q.check s.client.labelled = q.check s.client := rfl
  rw [hlabelled]
  cases hcheck : q.check s.client with
  | error e =>
    refine adds_pure id _ fun n address => ?_
    have hnone : q.pursuit? host deadline s = none := by simp [pursuit?, hcheck]
    rw [hnone]
    simpa using reaches_of_lull lull_nil
  | ok u =>
    apply (adds_candidates host s q).bind
    intro opening nodes s' hcandidates hopening
    have hlull := lull_of_isReading hopening
    cases nodes with
    | error e =>
      refine adds_pure id _ fun n address => ?_
      have hnone : q.pursuit? host deadline s = none := by simp [pursuit?, hcheck, hcandidates]
      rw [hnone, List.append_nil]
      simpa using reaches_of_lull hlull
    | ok nodes =>
      apply (adds_now host s').bind
      rintro _ start s'' hstart rfl
      let p : Pursuit ω κ α := ⟨host, q, s.client.settings, nodes, deadline, start, s''⟩
      have hsome : q.pursuit? host deadline s = some p := by
        simp only [pursuit?, hcheck, hcandidates]
        have hnow : (host.now s'.outside).1 = start := congrArg Prod.fst hstart
        rw [hnow, hstart]
      have hfirst : p.session? 0 = some s'' := rfl
      have hne : nodes ≠ [] := candidates_ne_nil host s q (by rw [hcandidates])
      apply (p.adds_attempts_reaches hne hfirst (Nat.add_zero (p.settings.maxAttempts - 1))).mono
      intro rest result hrest n address
      have hbegun := hlull.append (lull_now start)
      rw [← List.append_assoc, reaches_append, or_iff_right (reaches_of_lull hbegun),
        hbegun.looks, hrest, hsome]
      constructor
      · rintro ⟨turn, -, hn, hcontacts⟩
        exact ⟨p, turn, rfl, hn, hcontacts⟩
      · rintro ⟨p', turn, hp', hn, hcontacts⟩
        cases hp'
        exact ⟨turn, Nat.zero_le turn, hn, hcontacts⟩

end Inquiry

end HbarKit
