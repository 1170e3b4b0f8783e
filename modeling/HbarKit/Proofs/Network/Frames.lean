import HbarKit.Network.Inquiry
import HbarKit.Proofs.Network.Nodes
import HbarKit.Proofs.Network.Run

/-!
# What a run leaves as it is

An inquiry is made of few kinds of steps: those of its host, a change of the pool, and a change of
the health of the nodes at an address. A relation between sessions that holds across each of these
steps holds across the inquiry. So an inquiry leaves the nodes of its client at their places, and a
client goes on to serve its network.
-/
namespace HbarKit

open Run

variable {ω κ α β : Type}

/-- A step of a host. -/
inductive Host.Moves (host : Host ω κ) (w : ω) : ω → Prop
  | now : Moves host w (host.now w).2
  | date : Moves host w (host.date w).2
  | random : Moves host w (host.random w).2
  | isCancelled : Moves host w (host.isCancelled w).2
  | wait (duration : Duration) : Moves host w (host.wait duration w).2
  | connect (address : String) (duration : Duration) :
      Moves host w (host.connect address duration w).2
  | send (channel : κ) (request : Bytes) (duration : Duration) :
      Moves host w (host.send channel request duration w).2

/-- A relation between sessions that holds across every step of a host, across a change of the pool,
and across a change of the health of nodes at some addresses. -/
structure Host.Respects (host : Host ω κ) (touched : String → Prop)
    (R : Session ω κ → Session ω κ → Prop) : Prop where
  refl : ∀ s, R s s
  trans : ∀ {s s' s''}, R s s' → R s' s'' → R s s''
  step : ∀ {w w'} c, host.Moves w w' → R ⟨c, w⟩ ⟨c, w'⟩
  pool : ∀ c p w, R ⟨c, w⟩ ⟨{ c with pool := p }, w⟩
  node : ∀ {address change} c w, touched address → (∀ n, (change n).place = n.place) →
    R ⟨c, w⟩ ⟨c.atNode address change, w⟩

/-- A run ends in a session that is related to the one in which it begins. -/
def Run.Stays (R : Session ω κ → Session ω κ → Prop) (m : Run ω κ α) : Prop := ∀ s, R s (m s).2

namespace Host.Respects

variable {host : Host ω κ} {touched : String → Prop} {R : Session ω κ → Session ω κ → Prop}
  (h : host.Respects touched R)

include h

theorem stays_pure (a : α) : Stays R (pure a : Run ω κ α) := fun s => h.refl s

theorem stays_bind {m : Run ω κ α} {f : α → Run ω κ β} (hm : Stays R m)
    (hf : ∀ a, Stays R (f a)) : Stays R (m >>= f) :=
  fun s => h.trans (hm s) (hf _ _)

theorem stays_client : Stays R (client : Run ω κ (Client κ)) := fun s => h.refl s

theorem stays_outside {act : ω → α × ω} (hact : ∀ w, host.Moves w (act w).2) :
    Stays R (outside act : Run ω κ α) :=
  fun s => h.step s.client (hact s.outside)

theorem stays_now : Stays R (outside host.now : Run ω κ Moment) := h.stays_outside fun _ => .now

/-! ## Looking for nodes -/

theorem stays_shuffle (items : List α) : Stays R (shuffle host items) := by
  have hdraw : ∀ count, Stays R (draw host count : Run ω κ (List Nat)) := by
    intro count
    induction count with
    | zero => exact h.stays_pure []
    | succ count ih =>
      refine h.stays_bind (h.stays_outside fun _ => .random) fun first => ?_
      exact h.stays_bind ih fun rest => h.stays_pure _
  exact h.stays_bind (hdraw _) fun _ => h.stays_pure _

theorem stays_candidates (q : Inquiry α) : Stays R (q.candidates host) := by
  refine h.stays_bind h.stays_client fun c => ?_
  cases q.nodes with
  | nil =>
    have hsample : Stays R (sample host c.settings.maxNodes) := by
      refine h.stays_bind h.stays_now fun now => ?_
      refine h.stays_bind h.stays_client fun c => ?_
      refine h.stays_bind (h.stays_shuffle _) fun healthy => ?_
      exact h.stays_bind (h.stays_shuffle _) fun benched => h.stays_pure _
    refine h.stays_bind hsample fun nodes => ?_
    cases nodes with
    | nil => exact h.stays_pure _
    | cons node rest => exact h.stays_pure _
  | cons account rest => exact h.stays_pure _

/-! ## Attempts -/

theorem stays_stop? (deadline : Option Moment) :
    Stays R (Inquiry.stop? host deadline : Run ω κ (Option Error)) := by
  refine h.stays_bind (h.stays_outside fun _ => .isCancelled) fun cancelled => ?_
  cases cancelled with
  | true => exact h.stays_pure _
  | false =>
    cases deadline with
    | none => exact h.stays_pure _
    | some deadline =>
      refine h.stays_bind h.stays_now fun now => ?_
      split
      · exact h.stays_pure _
      · exact h.stays_pure _

theorem stays_pause (deadline : Option Moment) (duration : Duration) :
    Stays R (Inquiry.pause host deadline duration : Run ω κ (Option Error)) := by
  cases deadline with
  | none =>
    refine h.stays_bind (h.stays_outside fun _ => .wait duration) fun stopped => ?_
    exact h.stays_pure _
  | some deadline =>
    refine h.stays_bind h.stays_now fun now => ?_
    refine h.stays_bind (h.stays_outside fun _ => .wait _) fun stopped => ?_
    split
    · exact h.stays_pure _
    · split
      · exact h.stays_pure _
      · exact h.stays_pure _

theorem stays_pick (nodes : List Node) (turn : Nat) : Stays R (Inquiry.pick host nodes turn) := by
  refine h.stays_bind h.stays_now fun now => ?_
  exact h.stays_bind h.stays_client fun c => h.stays_pure _

theorem stays_exchange (node : Node) (request : Bytes) (timeout : Duration) :
    Stays R (Inquiry.exchange host node request timeout) := by
  refine h.stays_bind h.stays_client fun c => ?_
  refine h.stays_bind ?_ fun got => ?_
  · unfold Pool.get
    cases c.pool.find? node.address with
    | some channel => exact h.stays_pure _
    | none =>
      refine h.stays_bind (h.stays_outside fun _ => .connect _ _) fun opened => ?_
      cases opened with
      | error e => exact h.stays_pure _
      | ok channel => exact h.stays_pure _
  · obtain ⟨channel, pool⟩ := got
    refine h.stays_bind (fun s => h.pool s.client pool s.outside) fun _ => ?_
    cases channel with
    | error e => exact h.stays_pure _
    | ok channel =>
      refine h.stays_bind (h.stays_outside fun _ => .send channel request timeout) fun answer => ?_
      cases answer with
      | error e => exact h.stays_pure _
      | ok answer => exact h.stays_pure _

variable (q : Inquiry α) (settings : Settings) (nodes : List Node) (deadline : Option Moment)
  (start : Moment)

theorem stays_ask (turn : Nat) :
    Stays R (q.ask host settings nodes deadline start turn) := by
  refine h.stays_bind (h.stays_stop? deadline) fun stop => ?_
  cases stop with
  | some e => exact h.stays_pure _
  | none =>
    refine h.stays_bind (h.stays_pick nodes turn) fun picked => ?_
    cases picked with
    | none => exact h.stays_pure _
    | some node =>
      cases hbytes : q.bytes node.account with
      | error e =>
        simp only [hbytes]
        exact h.stays_pure _
      | ok request =>
        simp only [hbytes]
        refine h.stays_bind h.stays_now fun now => ?_
        exact h.stays_bind (h.stays_exchange node request _) fun response => h.stays_pure _

theorem stays_judge {node : Node} (hnode : touched node.address) (response : Response) :
    Stays R (q.judge host node response) := by
  unfold Inquiry.judge
  cases q.verdict response with
  | accept =>
    refine h.stays_bind (fun s => ?_) fun _ => h.stays_pure _
    exact h.node s.client s.outside hnode Node.place_readmit
  | reject status => exact h.stays_pure _
  | retry status =>
    by_cases hbench : status = .busy ∨ status = .platformNotActive
    · simp only [if_pos hbench]
      refine h.stays_bind h.stays_now fun now => ?_
      refine h.stays_bind (fun s => ?_) fun _ => h.stays_pure _
      exact h.node s.client s.outside hnode fun n => n.place_bench now
    · simp only [if_neg hbench]
      exact h.stays_pure _

/-- An attempt changes the health of nodes at the address of the node that it turns to. -/
theorem attempt {turn : Nat} {s : Session ω κ}
    (htouched : ∀ reply, (q.ask host settings nodes deadline start turn s).1 = .ok reply →
      touched reply.node.address) :
    R s (q.attempt host settings nodes deadline start turn s).2 := by
  have hask := h.stays_ask q settings nodes deadline start turn s
  simp only [Inquiry.attempt, bind_apply]
  cases hreply : q.ask host settings nodes deadline start turn s with
  | mk reply s' =>
    rw [hreply] at hask htouched
    cases reply with
    | error e => exact hask
    | ok reply =>
      obtain ⟨node, response⟩ := reply
      have hnode : touched node.address := htouched _ rfl
      refine h.trans hask ?_
      cases response with
      | ok response => exact h.stays_judge q hnode response s'
      | error e =>
        refine h.stays_bind h.stays_now (fun now => h.stays_bind (fun s => ?_) fun _ =>
          h.stays_pure _) s'
        have hbench := h.node s.client s.outside hnode fun n => n.place_bench now
        exact h.trans hbench (h.pool _ _ s.outside)

/-! ## Inquiries -/

/-- Attempt after attempt, nothing happens but what the relation allows. -/
theorem stays_attempts (htouched : ∀ address, touched address) (left turn : Nat) :
    Stays R (q.attempts host settings nodes deadline start left turn) := by
  have hattempt : ∀ turn, Stays R (q.attempt host settings nodes deadline start turn) :=
    fun turn s => h.attempt q settings nodes deadline start fun _ _ => htouched _
  induction left generalizing turn with
  | zero =>
    rw [Inquiry.attempts]
    refine h.stays_bind (hattempt turn) fun a => ?_
    cases a with
    | ended result => exact h.stays_pure _
    | failed last => exact h.stays_pure _
  | succ left ih =>
    rw [Inquiry.attempts]
    refine h.stays_bind (hattempt turn) fun a => ?_
    cases a with
    | ended result => exact h.stays_pure _
    | failed last =>
      refine h.stays_bind h.stays_now fun now => ?_
      dsimp only
      cases Inquiry.outOfTime? settings (now - start) (settings.backoff (turn + 1)) last with
      | some e => exact h.stays_pure _
      | none =>
        refine h.stays_bind (h.stays_pause deadline _) fun stop => ?_
        cases stop with
        | some e => exact h.stays_pure _
        | none => exact ih (turn + 1)

theorem stays_run (htouched : ∀ address, touched address) : Stays R (q.run host deadline) := by
  refine h.stays_bind h.stays_client fun c => ?_
  cases q.check c with
  | error e => exact h.stays_pure _
  | ok u =>
    refine h.stays_bind (h.stays_candidates q) fun nodes => ?_
    cases nodes with
    | error e => exact h.stays_pure _
    | ok nodes =>
      refine h.stays_bind h.stays_now fun start => ?_
      exact h.stays_attempts q _ nodes deadline start htouched _ 0

end Host.Respects

/-! ## The network of a client -/

theorem Host.respects_places (host : Host ω κ) : host.Respects (fun _ => True) fun s s' =>
    s'.client.nodes.map Node.place = s.client.nodes.map Node.place where
  refl _ := rfl
  trans h h' := h'.trans h
  step _ _ := rfl
  pool _ _ _ := rfl
  node c _ _ hchange := c.map_place_atNode _ hchange

/-- An inquiry leaves all nodes of the client where they are, so the client goes on to serve its
network. -/
theorem Client.Serves.run {network : List (String × EntityId)} {s : Session ω κ}
    (h : s.client.Serves network) (host : Host ω κ) (q : Inquiry α) (deadline : Option Moment) :
    (q.run host deadline s).2.client.Serves network :=
  (host.respects_places.stays_run q deadline (fun _ => trivial) s).trans h

end HbarKit
