import HbarKit.Proofs.Network.Exchanges
import HbarKit.Proofs.Network.Log

/-!
# Phases of an inquiry

An inquiry looks whether it has to stop, asks a node and pauses, again and again. What it adds to
the log in each of these phases is told by a relation between events and the outcome of the phase,
and the events of an inquiry are those of its phases in their order.
-/
namespace HbarKit

open Run

variable {ω κ α : Type}

namespace Event

/-- What came back from an address in an exchange that is over with the event. -/
def reply? : Event → Option (String × Except Error Response)
  | .connect address _ (some fault) => some (address, .error (.transport fault))
  | .send _ message => some (message.address, message.response)
  | _ => none

/-- A reading of the clock or a connection that was opened. -/
def isQuiet : Event → Bool
  | .now _ | .connect _ _ none => true
  | _ => false

theorem isLook_of_isQuiet {e : Event} (h : e.isQuiet = true) : e.isLook = false := by
  cases e with
  | isCancelled answer => cases h
  | _ => rfl

theorem isExchange_of_reply? {e : Event} {reply : String × Except Error Response}
    (h : e.reply? = some reply) : e.isExchange = true := by
  cases e with
  | connect address time fault => rfl
  | send time message => rfl
  | _ => cases h

/-- It came back from where the event goes. -/
theorem address?_of_reply? {e : Event} {address : String} {response : Except Error Response}
    (h : e.reply? = some (address, response)) : e.address? = some address := by
  cases e with
  | connect peer time fault =>
    cases fault with
    | none => cases h
    | some fault =>
      cases h
      rfl
  | send time message =>
    cases h
    rfl
  | _ => cases h

theorem isLook_of_isExchange {e : Event} (h : e.isExchange = true) : e.isLook = false := by
  cases e with
  | isCancelled answer => cases h
  | _ => rfl

end Event

namespace Inquiry

/-! ## What the parts of an inquiry add to the log -/

/-- A look whether the inquiry has to stop, and why it has to if it has to. The deadline is only
looked at if the caller has not asked to stop. -/
inductive Look (deadline : Option Moment) : List Event → Option Error → Prop
  | cancelled : Look deadline [.isCancelled true] (some .cancelled)
  | free (h : deadline = none) : Look deadline [.isCancelled false] none
  | late {d t : Moment} (h : deadline = some d) (ht : d ≤ t) :
      Look deadline [.isCancelled false, .now t] (some .deadlinePassed)
  | early {d t : Moment} (h : deadline = some d) (ht : t < d) :
      Look deadline [.isCancelled false, .now t] none

/-- Whether a node is benched after an exchange, so that the clock is read. -/
def benches (q : Inquiry α) : Except Error Response → Bool
  | .error _ => true
  | .ok response =>
    match q.verdict response with
    | .retry status => status = .busy ∨ status = .platformNotActive
    | _ => false

/-- The readings for the bench after an exchange. -/
inductive Benching (q : Inquiry α) (response : Except Error Response) : List Event → Prop
  | benched (h : q.benches response = true) (t : Moment) : Benching q response [.now t]
  | spared (h : q.benches response = false) : Benching q response []

/-- An exchange with the node at an address, and what it gives. -/
inductive Exchange (address : String) : List Event → Except Error Response → Prop
  | over {way : List Event} {last : Event} {response : Except Error Response}
      (hway : ∀ e ∈ way, e.isQuiet = true) (h : last.reply? = some (address, response)) :
      Exchange address (way ++ [last]) response

/-- A request to the node whose turn it is, behind a look that may stop the inquiry. -/
inductive Asking (q : Inquiry α) (nodes : List Node) (deadline : Option Moment) :
    List Event → Except Error Reply → Prop
  | stopped {look : List Event} {e : Error} (hlook : Look deadline look (some e)) :
      Asking q nodes deadline look (.error e)
  | grounded {look part : List Event} {node : Node} {e : Error} (hlook : Look deadline look none)
      (hpart : ∀ e ∈ part, e.isQuiet = true) (hnode : node ∈ nodes)
      (hbytes : q.bytes node.account = .error e) :
      Asking q nodes deadline (look ++ part) (.error e)
  | replied {look way : List Event} {last : Event} {reply : Reply}
      (hlook : Look deadline look none) (hway : ∀ e ∈ way, e.isQuiet = true)
      (hnode : reply.node ∈ nodes) (h : last.reply? = some (reply.node.address, reply.response)) :
      Asking q nodes deadline (look ++ (way ++ [last])) (.ok reply)

/-- An attempt behind its look. Either there is nothing to send to the node whose turn it is, or one
exchange is made with it, and what comes back decides about the attempt. -/
inductive Flight (q : Inquiry α) (nodes : List Node) : List Event → Attempt α → Prop
  | grounded {part : List Event} {node : Node} {e : Error} (hpart : ∀ e ∈ part, e.isQuiet = true)
      (hnode : node ∈ nodes) (hbytes : q.bytes node.account = .error e) :
      Flight q nodes part (.ended (.error e))
  | landed {way benching : List Event} {last : Event} {node : Node}
      {response : Except Error Response} (hway : ∀ e ∈ way, e.isQuiet = true)
      (hnode : node ∈ nodes) (hlast : last.reply? = some (node.address, response))
      (hbenching : q.Benching response benching) :
      Flight q nodes (way ++ last :: benching) (q.fate ⟨node, response⟩)

/-- An attempt with its look, which may be the end of it. -/
inductive Tried (q : Inquiry α) (nodes : List Node) (deadline : Option Moment) :
    List Event → Attempt α → Prop
  | stopped {look : List Event} {e : Error} (hlook : Look deadline look (some e)) :
      Tried q nodes deadline look (.ended (.error e))
  | flown {look flight : List Event} {a : Attempt α} (hlook : Look deadline look none)
      (hflight : q.Flight nodes flight a) : Tried q nodes deadline (look ++ flight) a

/-- A pause, and why the inquiry has to stop if it has to. The client asks for a wait that ends at
the deadline at the latest. -/
inductive Paused (deadline : Option Moment) (time : Duration) : List Event → Option Error → Prop
  | free (h : deadline = none) (stopped : Bool) :
      Paused deadline time [.wait time stopped] (if stopped then some .cancelled else none)
  | limited {d : Moment} (h : deadline = some d) (t : Moment) (stopped : Bool) :
      Paused deadline time [.now t, .wait (min time (d - t)) stopped]
        (if stopped then some .cancelled
          else if d - t ≤ time then some .deadlinePassed else none)

/-- The events of an inquiry from the attempt with the number `turn + 1` on, with `left` attempts
behind it, and its result. -/
inductive Goes (q : Inquiry α) (settings : Settings) (nodes : List Node)
    (deadline : Option Moment) (start : Moment) :
    (left turn : Nat) → List Event → Except Error α → Prop
  | ended {left turn : Nat} {tried : List Event} {result : Except Error α}
      (h : q.Tried nodes deadline tried (.ended result)) :
      Goes q settings nodes deadline start left turn tried result
  | spent {turn : Nat} {tried : List Event} {last : Error}
      (h : q.Tried nodes deadline tried (.failed last)) :
      Goes q settings nodes deadline start 0 turn tried (.error (.attemptsSpent (turn + 1) last))
  | late {left turn : Nat} {tried : List Event} {last e : Error} {t : Moment}
      (h : q.Tried nodes deadline tried (.failed last))
      (ht : outOfTime? settings (t - start) (settings.backoff (turn + 1)) last = some e) :
      Goes q settings nodes deadline start (left + 1) turn (tried ++ [.now t]) (.error e)
  | broken {left turn : Nat} {tried pause : List Event} {last e : Error} {t : Moment}
      (h : q.Tried nodes deadline tried (.failed last))
      (ht : outOfTime? settings (t - start) (settings.backoff (turn + 1)) last = none)
      (hpause : Paused deadline (settings.backoff (turn + 1)) pause (some e)) :
      Goes q settings nodes deadline start (left + 1) turn (tried ++ .now t :: pause) (.error e)
  | again {left turn : Nat} {tried pause rest : List Event} {last : Error} {t : Moment}
      {result : Except Error α} (h : q.Tried nodes deadline tried (.failed last))
      (ht : outOfTime? settings (t - start) (settings.backoff (turn + 1)) last = none)
      (hpause : Paused deadline (settings.backoff (turn + 1)) pause none)
      (hrest : Goes q settings nodes deadline start left (turn + 1) rest result) :
      Goes q settings nodes deadline start (left + 1) turn (tried ++ .now t :: (pause ++ rest))
        result

/-! ## Visits -/

theorem lull_of_paused {deadline : Option Moment} {time : Duration} {pause : List Event}
    {found : Option Error} (h : Paused deadline time pause found) : Lull pause := by
  cases h with
  | free h stopped => exact ⟨rfl, rfl⟩
  | limited h t stopped => exact ⟨rfl, rfl⟩

theorem lull_of_benching {q : Inquiry α} {response : Except Error Response}
    {part : List Event} (h : q.Benching response part) : Lull part := by
  cases h with
  | benched h t => exact lull_now t
  | spared h => exact lull_nil

/-- An exchange goes to one address only. -/
structure Sole (address : String) (part : List Event) : Prop where
  looks : looks part = 0
  addresses : ∀ a, a ∈ addresses part ↔ a = address

/-- A look and, when a node is turned to, an exchange with that node behind it. -/
structure Visit (contact : Option Node) (part : List Event) : Prop where
  look : ∃ answer rest, part = .isCancelled answer :: rest ∧ looks rest = 0
  addresses : ∀ a, a ∈ addresses part ↔ ∃ node, contact = some node ∧ node.address = a

theorem Visit.append {contact : Option Node} {part lull : List Event} (h : Visit contact part)
    (hlull : Lull lull) : Visit contact (part ++ lull) := by
  obtain ⟨answer, rest, rfl, hrest⟩ := h.look
  refine ⟨⟨answer, rest ++ lull, rfl, ?_⟩, ?_⟩
  · rw [looks_append, hrest, hlull.looks]
  · rw [addresses_append, hlull.addresses, List.append_nil]
    exact h.addresses

theorem Visit.looks {contact : Option Node} {part : List Event} (h : Visit contact part) :
    looks part = 1 := by
  obtain ⟨answer, rest, rfl, hrest⟩ := h.look
  rw [← List.singleton_append, looks_append, hrest]
  rfl

/-- All that a visit reaches is behind its look. -/
theorem Visit.reaches_iff {contact : Option Node} {part : List Event} {front n : Nat}
    {address : String} (h : Visit contact part) : Reaches front part n address ↔
      n = front + 1 ∧ ∃ node, contact = some node ∧ node.address = address := by
  rw [← h.addresses]
  obtain ⟨answer, rest, rfl, hrest⟩ := h.look
  rw [← List.singleton_append, reaches_append, reaches_of_looks_eq_zero hrest]
  have hlook : ¬ Reaches front [.isCancelled answer] n address := by
    rintro ⟨before, e, after, hlog, -, he⟩
    cases before with
    | nil => cases hlog; cases he
    | cons _ _ => simp at hlog
  exact or_iff_right hlook

theorem lull_of_look {deadline : Option Moment} {look : List Event} {found : Option Error}
    (h : Look deadline look found) :
    ∃ answer rest, look = .isCancelled answer :: rest ∧ Lull rest := by
  cases h with
  | cancelled => exact ⟨true, [], rfl, lull_nil⟩
  | free h => exact ⟨false, [], rfl, lull_nil⟩
  | late h ht => exact ⟨false, _, rfl, lull_now _⟩
  | early h ht => exact ⟨false, _, rfl, lull_now _⟩

/-- A look behind which nothing goes anywhere. -/
theorem visit_of_look {deadline : Option Moment} {look : List Event} {found : Option Error}
    (h : Look deadline look found) : Visit none look := by
  obtain ⟨answer, rest, rfl, hrest⟩ := lull_of_look h
  refine ⟨⟨answer, rest, rfl, hrest.looks⟩, fun a => ?_⟩
  rw [addresses_isCancelled_cons, hrest.addresses]
  simp

/-- A look and an exchange with a node behind it. -/
theorem visit_of_sole {deadline : Option Moment} {look lull part : List Event}
    {found : Option Error} {node : Node} (h : Look deadline look found) (hlull : Lull lull)
    (hpart : Sole node.address part) : Visit (some node) (look ++ (lull ++ part)) := by
  obtain ⟨answer, rest, rfl, hrest⟩ := lull_of_look h
  have hbefore := hrest.append hlull
  refine ⟨⟨answer, (rest ++ lull) ++ part, by simp, ?_⟩, fun a => ?_⟩
  · rw [looks_append, hbefore.looks, hpart.looks]
  · rw [List.cons_append, addresses_isCancelled_cons, ← List.append_assoc, addresses_append,
      hbefore.addresses, List.nil_append, hpart.addresses]
    simp [eq_comm]

/-- What ends with something that came back is an exchange with one address, if at most a connection
to it was opened on the way. -/
theorem exchange_of_reply? {address : String} {way : List Event} {last : Event}
    {response : Except Error Response}
    (hway : way = [] ∨ ∃ time, way = [.connect address time none])
    (hlast : last.reply? = some (address, response)) :
    Exchange address (way ++ [last]) response ∧ Sole address (way ++ [last]) := by
  have hlook := Event.isLook_of_isExchange (Event.isExchange_of_reply? hlast)
  have haddress : addresses [last] = [address] := by
    simp [addresses, Event.address?_of_reply? hlast]
  have hlooks : looks [last] = 0 := by simp [looks, hlook]
  obtain rfl | ⟨time, rfl⟩ := hway
  · exact ⟨.over (by simp) hlast, hlooks, by simp [haddress]⟩
  · refine ⟨.over (by simp [Event.isQuiet]) hlast, ?_, fun a => ?_⟩
    · rw [looks_append, hlooks]
      rfl
    · rw [addresses_append, haddress]
      simp [addresses, Event.address?]

/-! ## What each function adds -/

section

variable (host : Host ω κ) (s : Session ω κ)

theorem adds_stop? (deadline : Option Moment) :
    Adds id (stop? host.recorded deadline : Run _ (Line κ) (Option Error)) (stop? host deadline) s
      (Look deadline) := by
  apply (adds_isCancelled host s).bind
  rintro _ answer s - rfl
  cases answer with
  | true => exact adds_pure id _ .cancelled
  | false =>
    cases deadline with
    | none => exact adds_pure id _ (.free rfl)
    | some d =>
      apply (adds_now host s).bind
      rintro _ t s - rfl
      by_cases ht : d ≤ t
      · simp only [id, if_pos ht]
        exact adds_pure id _ (.late rfl ht)
      · simp only [id, if_neg ht]
        exact adds_pure id _ (.early rfl (Nat.lt_of_not_le ht))

theorem adds_pause (deadline : Option Moment) (time : Duration) :
    Adds id (pause host.recorded deadline time : Run _ (Line κ) (Option Error))
      (pause host deadline time) s (Paused deadline time) := by
  cases deadline with
  | none =>
    apply (adds_wait host s time).bind
    rintro _ stopped s - rfl
    exact adds_pure id _ (.free rfl stopped)
  | some d =>
    apply (adds_now host s).bind
    rintro _ t s - rfl
    apply (adds_wait host s _).bind
    rintro _ stopped s - rfl
    have hpause : Paused (some d) time [.now t, .wait (min time (d - t)) stopped] _ :=
      .limited rfl t stopped
    cases stopped with
    | true => exact adds_pure id _ hpause
    | false =>
      by_cases hcut : d - t ≤ time
      · simp only [id, if_pos hcut]
        refine adds_pure id _ ?_
        simpa [hcut] using hpause
      · simp only [id, if_neg hcut]
        refine adds_pure id _ ?_
        simpa [hcut] using hpause

theorem adds_pick (nodes : List Node) (turn : Nat) :
    Adds id (pick host.recorded nodes turn) (pick host nodes turn) s
      fun added _ => ∃ t, added = [.now t] := by
  apply (adds_now host s).bind
  rintro _ t s - rfl
  apply adds_client_bind
  exact adds_pure id _ ⟨t, rfl⟩

/-- A channel is there, or it is opened, or the exchange is over. -/
theorem adds_get (p : Pool κ) (address : String) :
    Adds (gotten address)
      (p.labelled.get address fun time => outside (host.recorded.connect address time))
      (p.get address fun time => outside (host.connect address time)) s
      fun added got =>
        match got.1 with
        | .ok _ => added = [] ∨ ∃ time, added = [.connect address time none]
        | .error fault => ∃ time, added = [.connect address time (some fault)] := by
  unfold Pool.get
  rw [Pool.find?_labelled]
  cases p.find? address with
  | some channel => exact adds_pure (gotten address) (.ok channel, p) (.inl rfl)
  | none =>
    apply (adds_connect host s address p.connectTime).bind
    rintro _ opened s - rfl
    cases opened with
    | error fault => exact adds_pure (gotten address) (.error fault, p) ⟨p.connectTime, rfl⟩
    | ok channel =>
      simp only [Except.map, Pool.enter_labelled]
      refine adds_pure (gotten address) (.ok (p.enter address channel).1, _) ?_
      exact .inr ⟨p.connectTime, rfl⟩

theorem adds_exchange (node : Node) (request : Bytes) (timeout : Duration) :
    Adds id (exchange host.recorded node request timeout) (exchange host node request timeout) s
      fun added response => Exchange node.address added response ∧ Sole node.address added := by
  apply adds_client_bind
  apply (adds_get host s s.client.pool node.address).bind
  rintro added ⟨channel, pool⟩ s - hadded
  apply adds_modifyClient_bind fun _ => rfl
  cases channel with
  | error fault =>
    obtain ⟨time, rfl⟩ := hadded
    have hover : Event.reply? (.connect node.address time (some fault)) =
        some (node.address, .error (.transport fault)) := rfl
    exact adds_pure id _ (exchange_of_reply? (.inl rfl) hover)
  | ok channel =>
    apply (adds_send host _ ⟨node.address, channel⟩ request timeout).bind
    rintro _ answer s - rfl
    have hreply : Event.reply? (.send timeout ⟨node.address, request, answer⟩) =
        some (node.address, Message.response ⟨node.address, request, answer⟩) := rfl
    have hover := exchange_of_reply? hadded hreply
    cases answer with
    | error e => exact adds_pure id _ hover
    | ok answer =>
      simp only [Message.response] at hover
      cases hresponse : Wire.decode? Wire.response answer with
      | none =>
        simp only [id, Wire.decode, hresponse] at hover ⊢
        exact adds_pure id _ hover
      | some response =>
        simp only [id, Wire.decode, hresponse] at hover ⊢
        exact adds_pure id _ hover

variable (q : Inquiry α)

/-- Asking looks, and unless it has to stop or has nothing to send it visits a node. -/
theorem adds_ask (settings : Settings) {nodes : List Node} (hne : nodes ≠ [])
    (deadline : Option Moment) (start : Moment) (turn : Nat) :
    Adds id (q.ask host.recorded settings nodes deadline start turn)
      (q.ask host settings nodes deadline start turn) s
      fun added reply => q.Asking nodes deadline added reply ∧
        Visit (reply.toOption.map Reply.node) added := by
  apply (adds_stop? host s deadline).bind
  intro look stop s _ hlook
  cases stop with
  | some e =>
    refine adds_pure id _ ?_
    rw [List.append_nil]
    exact ⟨.stopped hlook, visit_of_look hlook⟩
  | none =>
    apply (adds_pick host s nodes turn).bind
    rintro _ picked s' hpick ⟨t, rfl⟩
    cases picked with
    | none =>
      obtain ⟨node, -, hsome⟩ := pick_eq_some host hne turn s
      rw [hpick] at hsome
      cases hsome
    | some node =>
      cases hbytes : q.bytes node.account with
      | error e =>
        simp only [id, hbytes]
        refine adds_pure id _ ?_
        rw [List.append_nil]
        have hgrounded : q.Asking nodes deadline (look ++ [.now t]) (.error e) :=
          .grounded hlook (by simp [Event.isQuiet]) (mem_of_pick host hpick) hbytes
        exact ⟨hgrounded, (visit_of_look hlook).append (lull_now t)⟩
      | ok request =>
        simp only [id, hbytes]
        apply (adds_now host s').bind
        rintro _ now s - rfl
        apply (adds_exchange host s node request _).bind
        rintro _ response s - ⟨⟨hway, hlast⟩, hsole⟩
        rename_i way last
        have hall : ∀ e ∈ .now t :: .now now :: way, e.isQuiet = true :=
          List.forall_mem_cons.mpr ⟨rfl, List.forall_mem_cons.mpr ⟨rfl, hway⟩⟩
        have hreplied : q.Asking nodes deadline
            (look ++ ((.now t :: .now now :: way) ++ [last])) (.ok ⟨node, response⟩) :=
          .replied hlook hall (mem_of_pick host hpick) hlast
        have hvisit := visit_of_sole hlook ((lull_now t).append (lull_now now)) hsole
        refine adds_pure id _ ?_
        rw [List.append_nil]
        exact ⟨hreplied, hvisit⟩

theorem adds_judge (node : Node) (response : Response) :
    Adds id (q.judge host.recorded node response) (q.judge host node response) s
      fun added a => a = q.fate ⟨node, .ok response⟩ ∧ q.Benching (.ok response) added := by
  unfold judge
  simp only [fate]
  cases hverdict : q.verdict response with
  | accept =>
    apply adds_modifyClient_bind fun _ => rfl
    exact adds_pure id _ ⟨rfl, .spared (by simp [benches, hverdict])⟩
  | reject status => exact adds_pure id _ ⟨rfl, .spared (by simp [benches, hverdict])⟩
  | retry status =>
    by_cases hbench : status = .busy ∨ status = .platformNotActive
    · simp only [if_pos hbench]
      apply (adds_now host s).bind
      rintro _ t s - rfl
      apply adds_modifyClient_bind fun _ => rfl
      exact adds_pure id _ ⟨rfl, .benched (by simp [benches, hverdict, hbench]) t⟩
    · simp only [if_neg hbench]
      exact adds_pure id _ ⟨rfl, .spared (by simpa [benches, hverdict] using hbench)⟩

/-- An attempt visits the node that it turns to. -/
theorem adds_attempt (settings : Settings) {nodes : List Node} (hne : nodes ≠ [])
    (deadline : Option Moment) (start : Moment) (turn : Nat) :
    Adds id (q.attempt host.recorded settings nodes deadline start turn)
      (q.attempt host settings nodes deadline start turn) s
      fun added a => q.Tried nodes deadline added a ∧
        Visit ((q.ask host settings nodes deadline start turn s).1.toOption.map Reply.node)
          added := by
  apply (adds_ask host s q settings hne deadline start turn).bind
  rintro added reply s hask ⟨hasking, hvisit⟩
  rw [hask]
  cases hasking with
  | stopped hlook =>
    refine adds_pure id _ ?_
    rw [List.append_nil]
    exact ⟨.stopped hlook, hvisit⟩
  | grounded hlook hpart hnode hbytes =>
    refine adds_pure id _ ?_
    rw [List.append_nil]
    exact ⟨.flown hlook (.grounded hpart hnode hbytes), hvisit⟩
  | @replied look way last reply hlook hway hnode hlast =>
    obtain ⟨node, response⟩ := reply
    have hlanded : ∀ benching, q.Benching response benching →
        q.Tried nodes deadline (look ++ (way ++ [last]) ++ benching)
          (q.fate ⟨node, response⟩) := by
      intro benching hbenching
      have hflight := Flight.landed hway hnode hlast hbenching
      simpa using Tried.flown hlook hflight
    cases response with
    | ok response =>
      apply (adds_judge host s q node response).mono
      rintro benching _ ⟨rfl, hbenching⟩
      exact ⟨hlanded benching hbenching, hvisit.append (lull_of_benching hbenching)⟩
    | error e =>
      apply (adds_now host s).bind
      rintro _ t s - rfl
      apply adds_modifyClient_bind
      · intro c
        exact evict_labelled (c.bench t node.address) _
      · refine adds_pure id _ ?_
        rw [List.append_nil]
        exact ⟨hlanded _ (.benched rfl t), hvisit.append (lull_now t)⟩

/-- Attempt after attempt, what is added goes on as the inquiry does. -/
theorem adds_attempts (settings : Settings) {nodes : List Node} (hne : nodes ≠ [])
    (deadline : Option Moment) (start : Moment) (left turn : Nat) :
    Adds id (q.attempts host.recorded settings nodes deadline start left turn)
      (q.attempts host settings nodes deadline start left turn) s
      (q.Goes settings nodes deadline start left turn) := by
  induction left generalizing turn s with
  | zero =>
    rw [attempts, attempts]
    apply (adds_attempt host s q settings hne deadline start turn).bind
    rintro tried a s - ⟨htried, -⟩
    cases a with
    | ended result =>
      refine adds_pure id _ ?_
      rw [List.append_nil]
      exact .ended htried
    | failed last =>
      refine adds_pure id _ ?_
      rw [List.append_nil]
      exact .spent htried
  | succ left ih =>
    rw [attempts, attempts]
    apply (adds_attempt host s q settings hne deadline start turn).bind
    rintro tried a s - ⟨htried, -⟩
    cases a with
    | ended result =>
      refine adds_pure id _ ?_
      rw [List.append_nil]
      exact .ended htried
    | failed last =>
      apply (adds_now host s).bind
      rintro _ t s - rfl
      simp only [id]
      cases ht : outOfTime? settings (t - start) (settings.backoff (turn + 1)) last with
      | some e => exact adds_pure id _ (.late htried ht)
      | none =>
        apply (adds_pause host s deadline _).bind
        intro pause stop s _ hpause
        cases stop with
        | some e =>
          refine adds_pure id _ ?_
          rw [List.append_nil]
          exact .broken htried ht hpause
        | none =>
          apply (ih s (turn + 1)).mono
          intro rest result hrest
          have hagain : q.Goes settings nodes deadline start (left + 1) turn
              (tried ++ .now t :: (pause ++ rest)) result := .again htried ht hpause hrest
          exact hagain

theorem adds_candidates : Adds id (q.candidates host.recorded) (q.candidates host) s
    fun added _ => ∀ e ∈ added, e.isReading = true := by
  apply adds_client_bind
  cases q.nodes with
  | nil =>
    apply (adds_sample host s _).bind
    intro added nodes s _ hadded
    cases nodes with
    | nil =>
      refine adds_pure id _ ?_
      rwa [List.append_nil]
    | cons node rest =>
      refine adds_pure id _ ?_
      rwa [List.append_nil]
  | cons account rest => exact adds_pure id _ (by simp)

/-- There is always a node to ask if candidates are found. -/
theorem candidates_ne_nil {nodes : List Node} (h : (q.candidates host s).1 = .ok nodes) :
    nodes ≠ [] := by
  rintro rfl
  simp only [candidates, bind_apply, client_apply] at h
  cases haccounts : q.nodes with
  | nil =>
    simp only [haccounts, bind_apply] at h
    cases hnodes : (sample host s.client.settings.maxNodes s).1 with
    | nil =>
      rw [hnodes] at h
      cases h
    | cons node rest =>
      rw [hnodes] at h
      cases h
  | cons account rest =>
    rw [haccounts] at h
    cases forall₂_of_mapM_eq_ok h

/-- What an inquiry does: it looks for nodes, and if it has some it reads the clock and goes from
attempt to attempt. -/
inductive Runs (q : Inquiry α) (c : Client κ) (candidates : Except Error (List Node))
    (deadline : Option Moment) : List Event → Except Error α → Prop
  | refused {opening : List Event} {e : Error} (hopening : ∀ e ∈ opening, e.isReading = true)
      (h : q.check c = .error e ∨ candidates = .error e) :
      Runs q c candidates deadline opening (.error e)
  | put {opening course : List Event} {nodes : List Node} {start : Moment}
      {result : Except Error α} (hopening : ∀ e ∈ opening, e.isReading = true)
      (hnodes : nodes ⊆ c.nodes)
      (hcourse : q.Goes c.settings nodes deadline start (c.settings.maxAttempts - 1) 0 course
        result) :
      Runs q c candidates deadline (opening ++ .now start :: course) result

theorem adds_run (deadline : Option Moment) :
    Adds id (q.run host.recorded deadline) (q.run host deadline) s
      (q.Runs s.client (q.candidates host s).1 deadline) := by
  apply adds_client_bind
  have hlabelled : q.check s.client.labelled = q.check s.client := rfl
  rw [hlabelled]
  cases hcheck : q.check s.client with
  | error e => exact adds_pure id _ (.refused (by simp) (.inl hcheck))
  | ok u =>
    apply (adds_candidates host s q).bind
    intro opening nodes s' hcandidates hopening
    cases nodes with
    | error e =>
      refine adds_pure id _ ?_
      rw [List.append_nil]
      exact .refused hopening (.inr (by rw [hcandidates]))
    | ok nodes =>
      have hnodes : nodes ⊆ s.client.nodes := by
        apply q.candidates_subset host
        rw [hcandidates]
      have hne : nodes ≠ [] := by
        apply candidates_ne_nil host s q
        rw [hcandidates]
      apply (adds_now host s').bind
      rintro _ start s'' - rfl
      apply (adds_attempts host s'' q s.client.settings hne deadline start _ 0).mono
      intro course result hcourse
      exact .put hopening hnodes hcourse
end

end Inquiry

end HbarKit
