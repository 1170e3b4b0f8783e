import HbarKit.Network.ReceiptQuery
import HbarKit.Proofs.Except
import HbarKit.Proofs.Network.Run
import Mathlib.Data.List.Rotate

/-!
# The end of an inquiry

Here nobody stops an inquiry: its caller does not cancel it and sets no deadline. Its course is what
attempt after attempt would give if neither attempts nor time were limited. The inquiry follows its
course up to the first attempt that is answered for good or that leaves no attempts or no time, and
what that attempt gave is what it ends with. There is one exception. The time that would have passed
at the end of a pause is worked out as a duration, and where no duration holds it the inquiry breaks
off, though there is less time left than ever.
-/
namespace HbarKit

variable {ω κ α : Type}

/-- A host whose caller never asks to stop. -/
structure Host.Patient (host : Host ω κ) : Prop where
  isCancelled : ∀ w, (host.isCancelled w).1 = false
  wait : ∀ time w, (host.wait time w).1 = false

namespace Inquiry

/-! ## The time that is left -/

section

variable {settings : Settings} {elapsed time : Duration}

theorem outOfTime?_eq_none (last : Error) (htime : elapsed + time < settings.requestTimeout)
    (hheld : elapsed + time < Duration.limit) :
    outOfTime? settings elapsed time last = none := by
  rw [outOfTime?, Duration.add?, if_pos hheld]
  exact if_neg (Nat.not_le.mpr htime)

/-- A sum that cannot be held is not compared with anything. -/
theorem outOfTime?_of_overflow (last : Error) (h : Duration.limit ≤ elapsed + time) :
    outOfTime? settings elapsed time last = some .timeOverflow := by
  rw [outOfTime?, Duration.add?, if_neg (Nat.not_lt.mpr h)]

theorem outOfTime?_of_late (last : Error) (hheld : elapsed + time < Duration.limit)
    (hlate : settings.requestTimeout ≤ elapsed + time) :
    outOfTime? settings elapsed time last = some (.timeSpent elapsed last) := by
  rw [outOfTime?, Duration.add?, if_pos hheld]
  exact if_pos hlate

theorem kind_of_outOfTime? {last e : Error} (h : outOfTime? settings elapsed time last = some e) :
    e.kind = .exhaustion := by
  unfold outOfTime? at h
  split at h
  · cases h
    rfl
  · split at h
    · cases h
      rfl
    · cases h

end

/-! ## Single attempts -/

/-- What becomes of an attempt by the reply to it. -/
def fate (q : Inquiry α) (reply : Reply) : Attempt α :=
  match reply.response with
  | .error e => .failed e
  | .ok response =>
    match q.verdict response with
    | .accept => .ended (q.answer reply.node.account response)
    | .reject status => .ended (.error (q.rejection status reply.node))
    | .retry status => .failed (q.rejection status reply.node)

theorem stop?_of_patient {host : Host ω κ} (hpatient : host.Patient) (s : Session ω κ) :
    (stop? host none s).1 = none := by
  simp [stop?, hpatient.isCancelled]

theorem pause_of_patient {host : Host ω κ} (hpatient : host.Patient) (time : Duration)
    (s : Session ω κ) : (pause host none time s).1 = none := by
  simp [pause, hpatient.wait]

theorem rotateLeft_eq_rotate (nodes : List Node) (turn : Nat) :
    nodes.rotateLeft turn = nodes.rotate turn := by
  rw [List.rotate_eq_drop_append_take_mod, List.rotateLeft]
  split
  · rename_i hlength
    match nodes, hlength with
    | [], _ => simp
    | [n], _ => simp [Nat.mod_one]
  · rfl

theorem perm_rotateLeft (nodes : List Node) (turn : Nat) : (nodes.rotateLeft turn).Perm nodes := by
  rw [rotateLeft_eq_rotate]
  exact List.rotate_perm nodes turn

/-- Some node is always picked: a benched one if there is no other. -/
theorem pick_eq_some (host : Host ω κ) {nodes : List Node} (hne : nodes ≠ []) (turn : Nat)
    (s : Session ω κ) : ∃ node ∈ nodes, (pick host nodes turn s).1 = some node := by
  have hperm := perm_rotateLeft nodes turn
  simp only [pick, Run.bind_apply, Run.outside_apply, Run.client_apply, Run.pure_apply]
  cases hhealthy : (nodes.rotateLeft turn).find? fun n =>
      s.client.isHealthy (host.now s.outside).1 n.address with
  | some node => exact ⟨node, hperm.subset (List.mem_of_find?_eq_some hhealthy), rfl⟩
  | none =>
    cases horder : nodes.rotateLeft turn with
    | nil => exact absurd (List.nil_perm.mp (horder ▸ hperm)) hne
    | cons node rest =>
      rw [horder] at hperm
      exact ⟨node, hperm.subset List.mem_cons_self, rfl⟩

theorem ask_of_patient {host : Host ω κ} (hpatient : host.Patient) {q : Inquiry α}
    {nodes : List Node} (hne : nodes ≠ [])
    (hbytes : ∀ node ∈ nodes, ∃ b, q.bytes node.account = .ok b) (settings : Settings)
    (start : Moment) (turn : Nat) (s : Session ω κ) :
    ∃ reply, (ask host q settings nodes none start turn s).1 = .ok reply := by
  obtain ⟨node, hmem, hpick⟩ := pick_eq_some host hne turn (stop? host none s).2
  obtain ⟨b, hb⟩ := hbytes node hmem
  simp only [ask, Run.bind_apply, stop?_of_patient hpatient, hpick, hb, Run.pure_apply]
  exact ⟨_, rfl⟩

/-- An attempt becomes what the reply to it tells. -/
theorem attempt_of_ask {host : Host ω κ} {q : Inquiry α} {settings : Settings} {nodes : List Node}
    {deadline : Option Moment} {start : Moment} {turn : Nat} {s : Session ω κ} {reply : Reply}
    (h : (ask host q settings nodes deadline start turn s).1 = .ok reply) :
    (attempt host q settings nodes deadline start turn s).1 = q.fate reply := by
  obtain ⟨node, response⟩ := reply
  simp only [attempt, Run.bind_apply, h]
  cases response with
  | error e => rfl
  | ok response =>
    simp only [judge, fate]
    cases q.verdict response with
    | accept => rfl
    | reject status => rfl
    | retry status =>
      by_cases hbench : status = .busy ∨ status = .platformNotActive
      · simp only [if_pos hbench]
        rfl
      · simp only [if_neg hbench]
        rfl

end Inquiry

/-! ## The course of an inquiry -/

/-- An inquiry put to some nodes by some settings, from a session and a moment on. -/
structure Course (ω κ α : Type) where
  host : Host ω κ
  inquiry : Inquiry α
  settings : Settings
  nodes : List Node
  start : Moment
  first : Session ω κ

namespace Course

/-- The course that begins with a look at the clock. -/
def begin (host : Host ω κ) (q : Inquiry α) (settings : Settings) (nodes : List Node)
    (s : Session ω κ) : Course ω κ α where
  host
  inquiry := q
  settings
  nodes
  start := (host.now s.outside).1
  first := (Run.outside host.now s).2

/-- The attempt after `turn` others. -/
def attempt (c : Course ω κ α) (turn : Nat) : Run ω κ (Attempt α) :=
  c.inquiry.attempt c.host c.settings c.nodes none c.start turn

/-- The time that has passed since the start. -/
def elapsed (c : Course ω κ α) : Run ω κ Duration := do
  return (← Run.outside c.host.now) - c.start

/-- The session before the attempt after `turn` others, with a look at the clock and a pause behind
each of them. -/
def before (c : Course ω κ α) : (turn : Nat) → Session ω κ
  | 0 => c.first
  | turn + 1 =>
    let checked := (c.elapsed (c.attempt turn (c.before turn)).2).2
    (Inquiry.pause c.host none (c.settings.backoff (turn + 1)) checked).2

/-- The session after it. -/
def after (c : Course ω κ α) (turn : Nat) : Session ω κ := (c.attempt turn (c.before turn)).2

/-- The reply to it, or why there is none. -/
def reply? (c : Course ω κ α) (turn : Nat) : Except Error Reply :=
  (c.inquiry.ask c.host c.settings c.nodes none c.start turn (c.before turn)).1

/-- The time that has passed after it. -/
def elapsedAfter (c : Course ω κ α) (turn : Nat) : Duration := (c.elapsed (c.after turn)).1

/-- The attempts of a course from the one after `turn` others on, with `left` attempts behind it. -/
def attempts (c : Course ω κ α) (left turn : Nat) : Run ω κ (Except Error α) :=
  c.inquiry.attempts c.host c.settings c.nodes none c.start left turn

/-- Nobody stops the course, there are nodes to ask, and there is something to ask them. -/
structure Open (c : Course ω κ α) : Prop where
  patient : c.host.Patient
  nodes : c.nodes ≠ []
  bytes : ∀ node ∈ c.nodes, ∃ b, c.inquiry.bytes node.account = .ok b

/-- The time that would have passed at the end of the pause behind it. -/
def elapsedPaused (c : Course ω κ α) (turn : Nat) : Nat :=
  c.elapsedAfter turn + c.settings.backoff (turn + 1)

/-- Whether an attempt can be repeated, so that the course goes on with the next one. -/
def Repeated (c : Course ω κ α) (turn : Nat) : Prop :=
  ∃ reply last, c.reply? turn = .ok reply ∧ c.inquiry.fate reply = .failed last ∧
    c.elapsedPaused turn < c.settings.requestTimeout ∧ c.elapsedPaused turn < Duration.limit

/-- An end with the attempt after `turn` others, by its result and the session after it. -/
structure EndsAt (c : Course ω κ α) (turn : Nat) (fin : Except Error α × Session ω κ) : Prop where
  /-- There are no more attempts than the settings allow. -/
  within : turn < c.settings.maxAttempts
  /-- All attempts before the last one can be repeated. -/
  repeated : ∀ t < turn, c.Repeated t
  /-- The last one is answered for good, or is the last that is allowed, or leaves no time. -/
  last : ∃ reply, c.reply? turn = .ok reply ∧
    match c.inquiry.fate reply with
    | .ended result => fin = (result, c.after turn)
    | .failed last =>
      (turn + 1 = c.settings.maxAttempts ∧
        fin = (.error (.attemptsSpent (turn + 1) last), c.after turn)) ∨
      (turn + 1 < c.settings.maxAttempts ∧
        c.settings.requestTimeout ≤ c.elapsedPaused turn ∧
        fin = (.error (.timeSpent (c.elapsedAfter turn) last), (c.elapsed (c.after turn)).2))

/-- The course breaks off behind the attempt after `turn` others: it failed, there could be another
one, and no duration holds the time that would have passed before that. -/
structure BreaksAt (c : Course ω κ α) (turn : Nat) : Prop where
  within : turn + 1 < c.settings.maxAttempts
  repeated : ∀ t < turn, c.Repeated t
  failed : ∃ reply last, c.reply? turn = .ok reply ∧ c.inquiry.fate reply = .failed last
  overflow : Duration.limit ≤ c.elapsedPaused turn

variable {c : Course ω κ α}

theorem exists_reply (h : c.Open) (turn : Nat) : ∃ reply, c.reply? turn = .ok reply :=
  Inquiry.ask_of_patient h.patient h.nodes h.bytes _ _ _ _

theorem attempt_of_reply {turn : Nat} {reply : Reply} (h : c.reply? turn = .ok reply) :
    (c.attempt turn (c.before turn)).1 = c.inquiry.fate reply :=
  Inquiry.attempt_of_ask h

/-- An attempt that is answered for good ends the course. -/
theorem attempts_of_ended {left turn : Nat} {result : Except Error α}
    (h : (c.attempt turn (c.before turn)).1 = .ended result) :
    c.attempts left turn (c.before turn) = (result, c.after turn) := by
  unfold attempt at h
  rw [attempts, Inquiry.attempts]
  simp only [Run.bind_apply, h]
  rfl

/-- So does the last one that is allowed. -/
theorem attempts_of_spent {turn : Nat} {last : Error}
    (h : (c.attempt turn (c.before turn)).1 = .failed last) :
    c.attempts 0 turn (c.before turn) =
      (.error (.attemptsSpent (turn + 1) last), c.after turn) := by
  unfold attempt at h
  rw [attempts, Inquiry.attempts]
  simp only [Run.bind_apply, h]
  rfl

/-- So does one that leaves no time for the pause behind it. -/
theorem attempts_of_outOfTime {left turn : Nat} {last e : Error}
    (h : (c.attempt turn (c.before turn)).1 = .failed last)
    (htime : Inquiry.outOfTime? c.settings (c.elapsedAfter turn) (c.settings.backoff (turn + 1))
      last = some e) :
    c.attempts (left + 1) turn (c.before turn) = (.error e, (c.elapsed (c.after turn)).2) := by
  unfold attempt at h
  unfold elapsedAfter elapsed after attempt at htime
  simp only [Run.bind_apply, Run.pure_apply] at htime
  rw [attempts, Inquiry.attempts]
  simp only [Run.bind_apply, h, htime]
  rfl

/-- Behind any other one the course goes on. -/
theorem attempts_of_repeated (hpatient : c.host.Patient) (left : Nat) {turn : Nat}
    (h : c.Repeated turn) :
    c.attempts (left + 1) turn (c.before turn) =
      c.attempts left (turn + 1) (c.before (turn + 1)) := by
  obtain ⟨reply, last, hreply, hfate, htime, hheld⟩ := h
  have hattempt := (attempt_of_reply hreply).trans hfate
  have htime := Inquiry.outOfTime?_eq_none last htime hheld
  have hpause := Inquiry.pause_of_patient hpatient (c.settings.backoff (turn + 1))
    (Run.outside c.host.now (c.after turn)).2
  unfold attempt at hattempt
  unfold elapsedAfter elapsed after attempt at htime
  unfold after attempt at hpause
  simp only [Run.bind_apply, Run.pure_apply] at htime
  rw [attempts, Inquiry.attempts]
  simp only [Run.bind_apply, hattempt, htime, hpause]
  rfl

/-- Attempts that can all be repeated leave the course where they end. -/
theorem attempts_of_all_repeated (hpatient : c.host.Patient) (left : Nat) {turn : Nat}
    (h : ∀ t < turn, c.Repeated t) :
    c.attempts (left + turn) 0 c.first = c.attempts left turn (c.before turn) := by
  induction turn generalizing left with
  | zero => rfl
  | succ turn ih =>
    have hstep := attempts_of_repeated hpatient left (h turn (Nat.lt_succ_self turn))
    rw [← hstep, ← ih (left + 1) fun t ht => h t (Nat.lt_succ_of_lt ht)]
    congr 1
    omega

/-- Attempts that follow attempts which can all be repeated come to an end, unless the course breaks
off. -/
theorem exists_endsAt (h : c.Open) (hholds : ∀ turn, ¬ c.BreaksAt turn) {left turn : Nat}
    (hleft : turn + left + 1 = c.settings.maxAttempts) (hrepeated : ∀ t < turn, c.Repeated t) :
    ∃ last, c.EndsAt last (c.attempts left turn (c.before turn)) := by
  -- The sum of the attempts made and left does not change, so the last one is the last allowed.
  induction left generalizing turn with
  | zero =>
    obtain ⟨reply, hreply⟩ := exists_reply h turn
    have hattempt := attempt_of_reply hreply
    refine ⟨turn, by omega, hrepeated, reply, hreply, ?_⟩
    cases hfate : c.inquiry.fate reply with
    | ended result => exact attempts_of_ended (hattempt.trans hfate)
    | failed last => exact .inl ⟨by omega, attempts_of_spent (hattempt.trans hfate)⟩
  | succ left ih =>
    obtain ⟨reply, hreply⟩ := exists_reply h turn
    have hattempt := attempt_of_reply hreply
    cases hfate : c.inquiry.fate reply with
    | ended result =>
      refine ⟨turn, by omega, hrepeated, reply, hreply, ?_⟩
      rw [hfate]
      exact attempts_of_ended (hattempt.trans hfate)
    | failed last =>
      have hheld : c.elapsedPaused turn < Duration.limit := by
        by_contra hover
        exact hholds turn ⟨by omega, hrepeated, ⟨reply, last, hreply, hfate⟩, Nat.not_lt.mp hover⟩
      by_cases htime : c.elapsedPaused turn < c.settings.requestTimeout
      · have hturn : c.Repeated turn := ⟨reply, last, hreply, hfate, htime, hheld⟩
        rw [attempts_of_repeated h.patient left hturn]
        apply ih (by omega)
        intro t ht
        by_cases hlast : t = turn
        · exact hlast ▸ hturn
        · exact hrepeated t (by omega)
      · have hlate := Nat.not_lt.mp htime
        refine ⟨turn, by omega, hrepeated, reply, hreply, ?_⟩
        rw [hfate]
        exact .inr ⟨by omega, hlate, attempts_of_outOfTime (hattempt.trans hfate)
          (Inquiry.outOfTime?_of_late last hheld hlate)⟩

/-- What a course that breaks off ends with. -/
theorem attempts_of_breaksAt (hpatient : c.host.Patient) {turn : Nat} (h : c.BreaksAt turn) :
    c.attempts (c.settings.maxAttempts - 1) 0 c.first =
      (.error .timeOverflow, (c.elapsed (c.after turn)).2) := by
  obtain ⟨reply, last, hreply, hfate⟩ := h.failed
  have hleft : c.settings.maxAttempts - 1 = c.settings.maxAttempts - 2 - turn + 1 + turn := by
    have hwithin := h.within
    omega
  rw [hleft, attempts_of_all_repeated hpatient _ h.repeated]
  exact attempts_of_outOfTime ((attempt_of_reply hreply).trans hfate)
    (Inquiry.outOfTime?_of_overflow last h.overflow)

/-- A course that breaks off has no other end. -/
theorem not_endsAt_of_breaksAt {turn last : Nat} {s : Session ω κ} (h : c.BreaksAt turn) :
    ¬ c.EndsAt last (.error .timeOverflow, s) := by
  rintro ⟨-, hrepeated, reply, hreply, hlast⟩
  obtain hlt | rfl | hlt := Nat.lt_trichotomy turn last
  · obtain ⟨-, -, -, -, -, hheld⟩ := hrepeated turn hlt
    exact absurd hheld (Nat.not_lt.mpr h.overflow)
  · obtain ⟨reply', cause, hreply', hfate⟩ := h.failed
    cases hreply.symm.trans hreply'
    rw [hfate] at hlast
    obtain ⟨-, hfin⟩ | ⟨-, -, hfin⟩ := hlast
    · cases hfin
    · cases hfin
  · obtain ⟨reply', cause, hreply', hfate, htime, -⟩ := h.repeated last hlt
    cases hreply.symm.trans hreply'
    rw [hfate] at hlast
    obtain ⟨-, hfin⟩ | ⟨-, hlate, -⟩ := hlast
    · cases hfin
    · exact absurd htime (Nat.not_lt.mpr hlate)

end Course

namespace Inquiry

variable {host : Host ω κ} {q : Inquiry α} {s : Session ω κ}

/-- An inquiry that nobody stops ends on its course, with an answer for good or when its attempts or
its time are spent, unless that breaks off. -/
theorem run_endsAt_iff {nodes : List Node} (hcheck : q.check s.client = .ok ())
    (hnodes : (q.candidates host s).1 = .ok nodes) (hmax : 1 ≤ s.client.settings.maxAttempts)
    (hopen : (Course.begin host q s.client.settings nodes (q.candidates host s).2).Open) :
    let c := Course.begin host q s.client.settings nodes (q.candidates host s).2
    ((∃ turn, c.EndsAt turn (q.run host none s)) ↔ ∀ turn, ¬ c.BreaksAt turn) ∧
      ∀ turn, c.BreaksAt turn →
        q.run host none s = (.error .timeOverflow, (c.elapsed (c.after turn)).2) := by
  intro c
  have hrun : q.run host none s = c.attempts (c.settings.maxAttempts - 1) 0 c.first := by
    simp only [run, Run.bind_apply, Run.client_apply, hcheck, hnodes]
    rfl
  have hmax : 1 ≤ c.settings.maxAttempts := hmax
  have hbreaks : ∀ turn, c.BreaksAt turn →
      q.run host none s = (.error .timeOverflow, (c.elapsed (c.after turn)).2) := fun turn h =>
    hrun.trans (Course.attempts_of_breaksAt hopen.patient h)
  refine ⟨⟨?_, fun hholds => ?_⟩, hbreaks⟩
  · rintro ⟨last, hend⟩ turn hbreak
    rw [hbreaks turn hbreak] at hend
    exact Course.not_endsAt_of_breaksAt hbreak hend
  · rw [hrun]
    apply Course.exists_endsAt hopen hholds
    · rw [Nat.zero_add, Nat.sub_add_cancel hmax]
    · intro t ht
      omega

/-! ## A node that nobody reaches -/

/-- A host without connections. A look at its clock takes a nanosecond. -/
def offlineHost : Host Moment Unit where
  now w := (w, w + 1)
  date w := (0, w)
  random w := (0, w)
  isCancelled w := (false, w)
  wait time w := (false, w + time)
  connect address _ w := (.error (.connect address "no route"), w)
  send _ _ _ w := (.error .closed, w)

/-- The only node of a network. -/
def onlyNode : Node := .new ⟨⟨0, 0, 3⟩, none⟩ "node:50211"

/-- A session at the start of the clock with a client of that network and some settings. -/
def offlineSession (settings : Settings) : Session Moment Unit where
  client :=
    { nodes := [onlyNode]
      pool := .empty Client.connectTime
      ledger := none
      operator := none
      settings }
  outside := 0

/-- A question for a receipt that goes to that node. -/
def offlineInquiry : Inquiry Receipt :=
  ReceiptQuery.inquiry
    { id := some ⟨⟨⟨0, 0, 2⟩, none⟩, .ofNanos 0, none, false⟩
      nodes := [onlyNode.account] }

/-- The course of that question. -/
def offlineCourse (settings : Settings) : Course Moment Unit Receipt :=
  .begin offlineHost offlineInquiry settings [onlyNode] (offlineSession settings)

theorem open_offlineCourse (settings : Settings) : (offlineCourse settings).Open where
  patient := ⟨fun _ => rfl, fun _ _ => rfl⟩
  nodes := by simp [offlineCourse, Course.begin]
  bytes := by
    intro node h
    cases List.mem_singleton.mp h
    have hsome : (offlineInquiry.bytes onlyNode.account).toOption.isSome = true := by
      decide +kernel
    cases hb : offlineInquiry.bytes onlyNode.account with
    | ok b => exact ⟨b, hb⟩
    | error e =>
      rw [hb] at hsome
      cases hsome

theorem run_endsAt_iff_offline :
    ((∃ turn, (offlineCourse .initial).EndsAt turn
        (offlineInquiry.run offlineHost none (offlineSession .initial))) ↔
      ∀ turn, ¬ (offlineCourse .initial).BreaksAt turn) ∧
      ∀ turn, (offlineCourse .initial).BreaksAt turn →
        offlineInquiry.run offlineHost none (offlineSession .initial) =
          (.error .timeOverflow,
            ((offlineCourse .initial).elapsed ((offlineCourse .initial).after turn)).2) :=
  run_endsAt_iff (s := offlineSession .initial) rfl rfl (by decide) (open_offlineCourse .initial)

example : (offlineInquiry.run offlineHost none (offlineSession .initial)).1 =
    .error (.attemptsSpent 10 (.transport (.connect "node:50211" "no route"))) := by
  decide +kernel

/-- Settings with the longest pauses that can be held. -/
def overflowingSettings : Settings :=
  Settings.initial.setBackoff (Duration.limit - 1) (Duration.limit - 1)

/-- After them the time of an inquiry would be spent, but the inquiry breaks off. -/
theorem not_endsAt_overflowing :
    ¬ ∃ turn, (offlineCourse overflowingSettings).EndsAt turn
      (offlineInquiry.run offlineHost none (offlineSession overflowingSettings)) := by
  have hbreak : (offlineCourse overflowingSettings).BreaksAt 0 := by
    obtain ⟨reply, hreply⟩ := Course.exists_reply (open_offlineCourse overflowingSettings) 0
    have hunreached : ((offlineCourse overflowingSettings).reply? 0).toOption.map Reply.response =
        some (.error (.transport (.connect onlyNode.address "no route"))) := by
      decide +kernel
    rw [hreply] at hunreached
    have hfate : offlineInquiry.fate reply =
        .failed (.transport (.connect onlyNode.address "no route")) := by
      rw [fate, show reply.response = _ from Option.some.inj hunreached]
    exact ⟨by decide, fun t ht => by omega, ⟨reply, _, hreply, hfate⟩, by decide +kernel⟩
  have hrun : (offlineInquiry.run offlineHost none (offlineSession overflowingSettings)).1 =
      .error .timeOverflow := by
    decide +kernel
  rintro ⟨turn, hend⟩
  rw [← Prod.mk.eta (p := offlineInquiry.run offlineHost none (offlineSession overflowingSettings)),
    hrun] at hend
  exact Course.not_endsAt_of_breaksAt hbreak hend

end Inquiry

end HbarKit
