import HbarKit.Proofs.Network.Attempts
import HbarKit.Proofs.Network.Frames
import HbarKit.Proofs.Network.Sampling

/-!
# Failover

The candidates of an inquiry stand in a circle, and every attempt starts to look for a node one
place further on. It turns to the first that is not benched. An attempt changes nothing about other
nodes, and on a clock that runs forward nobody is benched by waiting, so as long as each candidate
is still to have its first turn it is as it was at the start: if all of them may be asked then, the
first attempts go to one of them after the other.
-/
namespace HbarKit

open Run

variable {ω κ α β : Type}

/-! ## Turns -/

/-- The node whose turn it is among those in a circle: the first good one from the place of the turn
on, or without any good one the node at that place. -/
inductive Chosen (good : Node → Bool) (nodes : List Node) (turn : Nat) : Node → Prop
  | good {offset : Nat} {node : Node}
      (hnode : nodes[(turn + offset) % nodes.length]? = some node) (hgood : good node = true)
      (hbefore : ∀ earlier < offset, ∀ other,
        nodes[(turn + earlier) % nodes.length]? = some other → good other = false) :
      Chosen good nodes turn node
  | bad {node : Node} (hnode : nodes[turn % nodes.length]? = some node)
      (hall : ∀ other ∈ nodes, good other = false) : Chosen good nodes turn node

section

variable {good : Node → Bool} {nodes : List Node} {turn : Nat} {node : Node}

theorem chosen_of_find? (h : ((nodes.rotateLeft turn).find? good <|>
    (nodes.rotateLeft turn).head?) = some node) : Chosen good nodes turn node := by
  rw [Inquiry.rotateLeft_eq_rotate] at h
  cases hfind : (nodes.rotate turn).find? good with
  | some found =>
    rw [hfind] at h
    cases h
    obtain ⟨hgood, offset, hlt, hnode, hbefore⟩ := List.find?_eq_some_iff_getElem.mp hfind
    rw [List.length_rotate] at hlt
    have hturn : nodes[(turn + offset) % nodes.length]? = some node := by
      rw [Nat.add_comm, ← List.getElem?_rotate hlt]
      exact List.getElem?_eq_some_iff.mpr ⟨_, hnode⟩
    refine .good hturn hgood fun earlier hearlier other hother => ?_
    rw [Nat.add_comm, ← List.getElem?_rotate (by omega)] at hother
    obtain ⟨hlt', rfl⟩ := List.getElem?_eq_some_iff.mp hother
    simpa using hbefore earlier hearlier
  | none =>
    rw [hfind] at h
    have hhead : (nodes.rotate turn).head? = some node := h
    have hne : 0 < nodes.length := by
      apply List.length_pos_of_ne_nil
      rintro rfl
      simp at hhead
    refine .bad ?_ ?_
    · rw [List.head?_eq_getElem?, List.getElem?_rotate hne, Nat.zero_add] at hhead
      exact hhead
    · intro other hother
      have hbad := List.find?_eq_none.mp hfind other (List.mem_rotate.mpr hother)
      simpa using hbad

/-- A good node whose turn it is is not passed over. -/
theorem Chosen.eq_of_good {own : Node} (h : Chosen good nodes turn node)
    (hown : nodes[turn % nodes.length]? = some own) (hgood : good own = true) : node = own := by
  cases h with
  | @good offset _ hnode _ hbefore =>
    cases offset with
    | zero =>
      rw [Nat.add_zero, hown] at hnode
      cases hnode
      rfl
    | succ offset =>
      have hbad := hbefore 0 (by omega) own (by rwa [Nat.add_zero])
      rw [hgood] at hbad
      cases hbad
  | bad hnode hall =>
    rw [hown] at hnode
    cases hnode
    rfl

end

/-! ## Time and other nodes -/

/-- A clock shows a time that no step of a host turns back. -/
structure Host.RunsForward (host : Host ω κ) (time : ω → Moment) : Prop where
  now : ∀ w, time w ≤ (host.now w).1 ∧ (host.now w).1 ≤ time (host.now w).2
  date : ∀ w, time w ≤ time (host.date w).2
  random : ∀ w, time w ≤ time (host.random w).2
  isCancelled : ∀ w, time w ≤ time (host.isCancelled w).2
  wait : ∀ duration w, time w ≤ time (host.wait duration w).2
  connect : ∀ address duration w, time w ≤ time (host.connect address duration w).2
  send : ∀ channel request duration w, time w ≤ time (host.send channel request duration w).2

/-- A session is behind another one in time, and about the nodes at the addresses that are spared
nothing has changed. -/
structure Later (time : ω → Moment) (spared : String → Prop) (s s' : Session ω κ) : Prop where
  time : time s.outside ≤ time s'.outside
  nodeAt? : ∀ address, spared address → s'.client.nodeAt? address = s.client.nodeAt? address

theorem Later.refl (time : ω → Moment) (spared : String → Prop) (s : Session ω κ) :
    Later time spared s s := ⟨le_rfl, fun _ _ => rfl⟩

section

variable {time : ω → Moment} {spared : String → Prop} {s s' s'' : Session ω κ}

theorem Later.trans (h : Later time spared s s') (h' : Later time spared s' s'') :
    Later time spared s s'' where
  time := h.time.trans h'.time
  nodeAt? address haddress := (h'.nodeAt? address haddress).trans (h.nodeAt? address haddress)

theorem Later.mono {spared' : String → Prop} (h : Later time spared s s')
    (hspared : ∀ address, spared' address → spared address) : Later time spared' s s' where
  time := h.time
  nodeAt? address haddress := h.nodeAt? address (hspared address haddress)

end

/-- Time goes on, and a step of an inquiry changes nothing about nodes that it leaves alone. -/
theorem Host.RunsForward.respects {host : Host ω κ} {time : ω → Moment} (h : host.RunsForward time)
    (spared : String → Prop) :
    host.Respects (fun touched => ∀ address, spared address → address ≠ touched)
      (Later time spared) where
  refl := .refl time spared
  trans := .trans
  step {w _} c hmoves := by
    refine ⟨?_, fun _ _ => rfl⟩
    cases hmoves with
    | now => exact (h.now w).1.trans (h.now w).2
    | date => exact h.date w
    | random => exact h.random w
    | isCancelled => exact h.isCancelled w
    | wait duration => exact h.wait duration w
    | connect address duration => exact h.connect address duration w
    | send channel request duration => exact h.send channel request duration w
  pool _ _ _ := ⟨le_rfl, fun _ _ => rfl⟩
  node _ _ htouched hchange :=
    ⟨le_rfl, fun address haddress =>
      Client.nodeAt?_atNode_of_ne (htouched address haddress) hchange⟩

namespace Pursuit

variable {p : Pursuit ω κ α} {time : ω → Moment}

/-- An attempt changes nothing about other nodes than the one that it turns to. -/
theorem later_attempt (p : Pursuit ω κ α) (hp : p.host.RunsForward time) (turn : Nat)
    (s : Session ω κ) :
    Later time (fun address => ∀ node, p.contact? turn s = some node → address ≠ node.address) s
      (p.attempt turn s).2 := by
  apply (hp.respects _).attempt p.inquiry p.settings p.nodes p.deadline p.start
  intro reply hreply address haddress
  apply haddress
  rw [contact?, hreply]
  rfl

/-- The moment at which an attempt that is not stopped looks for its node. -/
def pickTime (p : Pursuit ω κ α) (s : Session ω κ) : Moment :=
  (p.host.now (Inquiry.stop? p.host p.deadline s).2.outside).1

/-- Whatever the session is in which an attempt begins, it turns to the node whose turn it is,
unless it has to stop or there is nothing to send to that node. -/
theorem exists_chosen (p : Pursuit ω κ α) (hne : p.nodes ≠ []) (turn : Nat) (s : Session ω κ) :
    ∃ node, Chosen (fun n => s.client.isHealthy (p.pickTime s) n.address) p.nodes turn node ∧
      p.contact? turn s =
        match (Inquiry.stop? p.host p.deadline s).1, p.inquiry.bytes node.account with
        | none, .ok _ => some node
        | _, _ => none := by
  obtain ⟨node, -, hpick⟩ := Inquiry.pick_eq_some p.host hne turn
    (Inquiry.stop? p.host p.deadline s).2
  have hclient := (Inquiry.passive_stop? p.host p.deadline).client_eq s
  refine ⟨node, ?_, ?_⟩
  · apply chosen_of_find?
    rw [← hclient]
    exact hpick
  · simp only [contact?, Inquiry.ask, bind_apply]
    cases (Inquiry.stop? p.host p.deadline s).1 with
    | some e => rfl
    | none =>
      simp only [bind_apply, hpick]
      cases p.inquiry.bytes node.account with
      | error e => rfl
      | ok request => rfl

theorem chosen_of_contact? (hne : p.nodes ≠ []) {turn : Nat} {s : Session ω κ} {node : Node}
    (h : p.contact? turn s = some node) :
    Chosen (fun n => s.client.isHealthy (p.pickTime s) n.address) p.nodes turn node := by
  obtain ⟨chosen, hchosen, hcontact⟩ := p.exists_chosen hne turn s
  rw [h] at hcontact
  split at hcontact
  · cases hcontact
    exact hchosen
  · cases hcontact

/-- An attempt that may be repeated has turned to a node. -/
theorem exists_contact_of_failed {turn : Nat} {s : Session ω κ} {last : Error}
    (h : (p.attempt turn s).1 = .failed last) : ∃ node, p.contact? turn s = some node := by
  simp only [attempt, Inquiry.attempt, bind_apply] at h
  unfold contact?
  cases hreply : (p.inquiry.ask p.host p.settings p.nodes p.deadline p.start turn s).1 with
  | error e =>
    rw [hreply] at h
    cases h
  | ok reply => exact ⟨reply.node, rfl⟩

/-- The session of the next attempt is behind that of the attempt before it, which has turned to a
node and changed nothing about others. -/
theorem later_of_next? (hp : p.host.RunsForward time) {turn : Nat} {s s' : Session ω κ}
    (h : p.next? turn s = some s') : ∃ node, p.contact? turn s = some node ∧
      Later time (fun address => address ≠ node.address) s s' := by
  have hattempt := p.later_attempt hp turn s
  rw [next?] at h
  cases hfailed : p.attempt turn s with
  | mk a s₁ =>
    rw [hfailed] at h hattempt
    cases a with
    | ended result => cases h
    | failed last =>
      obtain ⟨node, hnode⟩ := exists_contact_of_failed (congrArg Prod.fst hfailed)
      refine ⟨node, hnode, ?_⟩
      have hothers : Later time (fun address => address ≠ node.address) s s₁ := by
        apply hattempt.mono
        intro address haddress n hn
        rw [hnode] at hn
        cases hn
        exact haddress
      have hrespects := hp.respects fun address => address ≠ node.address
      have hnow := hrespects.stays_now s₁
      have hpaused := hrespects.stays_pause p.deadline (p.settings.backoff (turn + 1))
        (outside p.host.now s₁).2
      simp only [outside_apply] at h hpaused
      split at h
      · cases h
      · split at h
        · cases h
        · rename_i s₂ hpause
          cases h
          rw [hpause] at hpaused
          exact (hothers.trans hnow).trans hpaused

/-! ## First turns -/

theorem address_ne_of_nodup {nodes : List Node} (h : (nodes.map Node.address).Nodup)
    {i j : Nat} (hij : i ≠ j) {a b : Node} (ha : nodes[i]? = some a) (hb : nodes[j]? = some b) :
    a.address ≠ b.address := by
  intro haddress
  apply hij
  obtain ⟨hlt, -⟩ := List.getElem?_eq_some_iff.mp ha
  apply (List.getElem?_inj (by rwa [List.length_map]) h).mp
  rw [List.getElem?_map, List.getElem?_map, ha, hb, Option.map_some, Option.map_some, haddress]

/-- A session in which all nodes that are still to have their first turn are as they were at the
start. -/
structure Fresh (p : Pursuit ω κ α) (time : ω → Moment) (turn : Nat) (s : Session ω κ) : Prop where
  time : p.start ≤ time s.outside
  nodeAt? : ∀ place node, turn ≤ place → p.nodes[place]? = some node →
    s.client.nodeAt? node.address = p.first.client.nodeAt? node.address

variable (hp : p.host.RunsForward time) (hdistinct : (p.nodes.map Node.address).Nodup)
  (hhealthy : ∀ n ∈ p.nodes, p.first.client.isHealthy p.start n.address = true)

include hp hhealthy in
/-- A node whose first turn it is may be asked, so the attempt turns to it. -/
theorem Fresh.contact {turn : Nat} {s : Session ω κ} {own node : Node} (h : p.Fresh time turn s)
    (hown : p.nodes[turn]? = some own) (hnode : p.contact? turn s = some node) : node = own := by
  obtain ⟨hlt, hget⟩ := List.getElem?_eq_some_iff.mp hown
  have hmem : own ∈ p.nodes := hget ▸ List.getElem_mem hlt
  have hchosen := chosen_of_contact? (List.ne_nil_of_mem hmem) hnode
  apply hchosen.eq_of_good
  · rw [Nat.mod_eq_of_lt hlt, hown]
  · have hlook := ((hp.respects fun _ => True).stays_stop? p.deadline s).time
    have hpick : p.start ≤ p.pickTime s := (h.time.trans hlook).trans (hp.now _).1
    exact Client.isHealthy_of_le (h.nodeAt? turn own le_rfl hown) hpick (hhealthy own hmem)

include hp hdistinct hhealthy in
/-- Attempts change nothing about the nodes that come after them. -/
theorem fresh_of_session? (hstart : p.start ≤ time p.first.outside) {turn : Nat}
    {s : Session ω κ} (hs : p.session? turn = some s) (hturn : turn ≤ p.nodes.length) :
    p.Fresh time turn s := by
  induction turn generalizing s with
  | zero =>
    cases hs
    exact ⟨hstart, fun _ _ _ _ => rfl⟩
  | succ turn ih =>
    rw [session?] at hs
    split at hs
    · obtain ⟨s₀, hs₀, hnext⟩ := Option.bind_eq_some_iff.mp hs
      have hfresh := ih hs₀ (by omega)
      obtain ⟨node, hnode, hlater⟩ := later_of_next? hp hnext
      have hown : p.nodes[turn]? = some p.nodes[turn] := List.getElem?_eq_getElem hturn
      have hsame := hfresh.contact hp hhealthy hown hnode
      refine ⟨hfresh.time.trans hlater.time, fun place other hplace hother => ?_⟩
      have hapart : other.address ≠ node.address :=
        address_ne_of_nodup hdistinct (by omega) hother (hsame ▸ hown)
      rw [hlater.nodeAt? _ hapart, hfresh.nodeAt? place other (by omega) hother]
    · cases hs

/-- A log in which each of the first attempts goes to one of the nodes, in their order. -/
structure Covers (p : Pursuit ω κ α) (log : List Event) : Prop where
  /-- The attempt after `turn` others goes to the node at that place and to no other. -/
  inTurn : ∀ turn node, p.nodes[turn]? = some node →
    ∀ address, Reaches 0 log (turn + 1) address → address = node.address
  /-- If it fails, it has gone there. -/
  reached : ∀ turn node s last, p.nodes[turn]? = some node → p.session? turn = some s →
    (p.attempt turn s).1 = .failed last → Reaches 0 log (turn + 1) node.address
  /-- No two of them go to the same address. -/
  apart : ∀ turn later address, turn < later → later < p.nodes.length →
    Reaches 0 log (turn + 1) address → ¬ Reaches 0 log (later + 1) address

include hp hdistinct hhealthy in
/-- When all nodes may be asked at the start, the first attempts go to one of them after the other.
-/
theorem covers_of_contacts (hstart : p.start ≤ time p.first.outside) {log : List Event}
    (hlog : ∀ turn address, Reaches 0 log (turn + 1) address ↔ p.Contacts turn address) :
    p.Covers log := by
  have hcontact : ∀ turn own s node, p.nodes[turn]? = some own → p.session? turn = some s →
      p.contact? turn s = some node → node = own := by
    intro turn own s node hown hs hnode
    obtain ⟨hlt, -⟩ := List.getElem?_eq_some_iff.mp hown
    have hfresh := fresh_of_session? hp hdistinct hhealthy hstart hs hlt.le
    exact hfresh.contact hp hhealthy hown hnode
  have hturns : ∀ turn node, p.nodes[turn]? = some node →
      ∀ address, Reaches 0 log (turn + 1) address → address = node.address := by
    intro turn own hown address h
    obtain ⟨s, node, hs, hnode, rfl⟩ := (hlog turn address).mp h
    rw [hcontact turn own s node hown hs hnode]
  constructor
  case inTurn => exact hturns
  case reached =>
    intro turn own s last hown hs hfailed
    obtain ⟨node, hnode⟩ := exists_contact_of_failed hfailed
    obtain rfl := hcontact turn own s node hown hs hnode
    exact (hlog turn _).mpr ⟨s, node, hs, hnode, rfl⟩
  case apart =>
    intro turn later address hlt hlater h h'
    have hown : p.nodes[turn]? = some p.nodes[turn] := List.getElem?_eq_getElem _
    have hother : p.nodes[later]? = some p.nodes[later] := List.getElem?_eq_getElem hlater
    apply address_ne_of_nodup hdistinct (by omega : turn ≠ later) hown hother
    rw [← hturns turn _ hown address h, ← hturns later _ hother address h']

end Pursuit

namespace Inquiry

/-- The candidates of an inquiry that names no nodes are a fair choice of the client by the clock
when they are drawn, each of them once. Whatever the session is in which an attempt begins, it turns
to the candidate whose turn it is by the clock then, unless it has to stop or has nothing to send to
that one, and all that an inquiry reaches is reached like that. So if the candidates differ, none of
them is benched at the start and the clock runs forward, the first attempts reach one of them after
the other. -/
theorem run_failover {network : List (String × EntityId)} (host : Host ω κ) (q : Inquiry α)
    (deadline : Option Moment) (s : Session ω κ) (hserves : s.client.Serves network)
    (hmap : (network.map Prod.fst).Nodup) :
    (∀ count, s.client.Sampled (host.now s.outside).1 count (sample host count s).1 ∧
      ((sample host count s).1.map Node.address).Nodup) ∧
    (q.nodes = [] → (q.candidates host s).1 =
      match (sample host s.client.settings.maxNodes s).1 with
      | [] => .error .noNodes
      | nodes => .ok nodes) ∧
    ∀ p, q.pursuit? host deadline s = some p →
      (∀ turn s', ∃ node,
        Chosen (fun n => s'.client.isHealthy (p.pickTime s') n.address) p.nodes turn node ∧
        p.contact? turn s' =
          match (stop? p.host p.deadline s').1, p.inquiry.bytes node.account with
          | none, .ok _ => some node
          | _, _ => none) ∧
      Adds id (q.run host.recorded deadline) (q.run host deadline) s fun log _ =>
        (∀ n address, Reaches 0 log n address ↔ ∃ turn, n = turn + 1 ∧ p.Contacts turn address) ∧
        ((p.nodes.map Node.address).Nodup →
          (∀ n ∈ p.nodes, s.client.isHealthy p.start n.address = true) →
            ∀ time, host.RunsForward time → p.Covers log) := by
  refine ⟨fun count => ?_, fun hnodes => ?_, fun p hp => ⟨fun turn s' => ?_, ?_⟩⟩
  · have hsampled := sampled_sample host count s
    exact ⟨hsampled, hsampled.distinct (hserves.nodup hmap)⟩
  · simp only [candidates, bind_apply, client_apply, hnodes]
    cases (sample host s.client.settings.maxNodes s).1 with
    | nil => rfl
    | cons node rest => rfl
  · obtain ⟨rfl, hnodes, -, -⟩ := q.pursuit?_eq_some _ deadline s hp
    exact p.exists_chosen (candidates_ne_nil _ s q hnodes) turn s'
  · have hreaches := q.adds_run_reaches host deadline s
    apply hreaches.mono
    intro log _ hlog
    have hcontacts : ∀ n address, Reaches 0 log n address ↔
        ∃ turn, n = turn + 1 ∧ p.Contacts turn address := by
      intro n address
      rw [hlog, hp]
      simp
    refine ⟨hcontacts, fun hdistinct hhealthy time hforward => ?_⟩
    obtain ⟨rfl, -, hstart, hclient⟩ := q.pursuit?_eq_some _ deadline s hp
    rw [← hclient] at hhealthy
    have htime : p.start ≤ time p.first.outside := by
      have hnow : _ = p.start := congrArg Prod.fst hstart
      have hfirst : _ = p.first := congrArg Prod.snd hstart
      rw [← hnow, ← hfirst]
      exact (hforward.now (q.candidates p.host s).2.outside).2
    apply p.covers_of_contacts hforward hdistinct hhealthy htime
    intro turn address
    simp [hcontacts]

/-! ## Two nodes that nobody reaches -/

/-- A network of two nodes. -/
def pairNetwork : List (String × EntityId) := [("a:50211", .ofNum 3), ("b:50211", .ofNum 4)]

/-- The nodes of that network. -/
def pairNodes : List Node := [.new (.ofNum 3) "a:50211", .new (.ofNum 4) "b:50211"]

/-- A session at the start of the clock with a new client of that network. -/
def pairSession : Session Moment Unit :=
  { offlineSession .initial with
    client := { (offlineSession .initial).client with nodes := pairNodes } }

theorem serves_pairNetwork : pairSession.client.Serves pairNetwork := by
  have hnodes : (Client.ofNetwork pairNetwork : Client Unit).nodes = pairNodes := by
    apply List.mergeSort_of_pairwise
    decide +kernel
  rw [Client.Serves, hnodes]
  rfl

/-- A question for a receipt that any node may answer. -/
def openInquiry : Inquiry Receipt := { offlineInquiry with nodes := [] }

theorem runsForward_offlineHost : offlineHost.RunsForward id where
  now w := ⟨le_rfl, Nat.le_succ w⟩
  date _ := le_rfl
  random _ := le_rfl
  isCancelled _ := le_rfl
  wait duration w := Nat.le_add_right w duration
  connect _ _ _ := le_rfl
  send _ _ _ _ := le_rfl

theorem run_failover_offline :
    Adds id (openInquiry.run offlineHost.recorded none) (openInquiry.run offlineHost none)
      pairSession fun log _ =>
        Reaches 0 log 1 "a:50211" ∧ Reaches 0 log 2 "b:50211" ∧ ¬ Reaches 0 log 2 "a:50211" := by
  obtain ⟨hsample, hcandidates, hpursuit⟩ := run_failover offlineHost openInquiry none pairSession
    serves_pairNetwork (by decide)
  let p : Pursuit Moment Unit Receipt :=
    { host := offlineHost
      inquiry := openInquiry
      settings := .initial
      nodes := pairNodes
      deadline := none
      start := 1
      first := { pairSession with outside := 2 } }
  have hp : openInquiry.pursuit? offlineHost none pairSession = some p := rfl
  obtain ⟨-, hadds⟩ := hpursuit p hp
  apply hadds.mono
  rintro log - ⟨hcontacts, hcovers⟩
  have hcovers := hcovers (by decide) (by decide) id runsForward_offlineHost
  have hreached : ∀ turn node, (p.session? turn).bind (p.contact? turn) = some node →
      Reaches 0 log (turn + 1) node.address := by
    intro turn node hnode
    obtain ⟨s, hs, hcontact⟩ := Option.bind_eq_some_iff.mp hnode
    exact (hcontacts _ _).mpr ⟨turn, rfl, s, node, hs, hcontact, rfl⟩
  have hfirst : Reaches 0 log 1 "a:50211" :=
    hreached 0 (.new (.ofNum 3) "a:50211") (by decide +kernel)
  have hsecond : Reaches 0 log 2 "b:50211" :=
    hreached 1 (.new (.ofNum 4) "b:50211") (by decide +kernel)
  exact ⟨hfirst, hsecond, hcovers.apart 0 1 _ (by decide) (by decide) hfirst⟩

end Inquiry

end HbarKit
