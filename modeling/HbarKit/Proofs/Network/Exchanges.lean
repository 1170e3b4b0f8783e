import HbarKit.Network.Inquiry
import HbarKit.Proofs.Network.Recording
import HbarKit.Proofs.Network.Retry
import HbarKit.Proofs.Network.Sampling

/-!
# What an inquiry sends

An inquiry sends at most one message in each of its attempts: its request for the node whose turn it
is, to the address of that node. All the rest of an inquiry sends nothing. When an answer is
accepted, it is the answer to the last message.
-/
namespace HbarKit

open Run

variable {ω κ α : Type}

/-- The response in the answer to a message, or why there is none. -/
def Message.response (m : Message) : Except Error Response :=
  match m.answer with
  | .error e => .error (.transport e)
  | .ok answer =>
    match Wire.decode? Wire.response answer with
    | some response => .ok response
    | none => .error (.wire .unreadable)

/-- What an attempt gives if no other one follows. -/
def Attempt.result : Attempt α → Except Error α
  | .ended result => result
  | .failed last => .error last

namespace Inquiry

/-- What an exchange sends and gives: without a channel nothing is sent, with one the response is in
the answer to the only message. -/
inductive Exchanged (address : String) (request : Bytes) :
    List Message → Except Error Response → Prop
  | unsent (e : TransportError) : Exchanged address request [] (.error (.transport e))
  | sent (answer : Except TransportError Bytes) {response : Except Error Response}
      (h : Message.response ⟨address, request, answer⟩ = response) :
      Exchanged address request [⟨address, request, answer⟩] response

/-- A message that carries the request for a node to its address. -/
structure Asks (q : Inquiry α) (node : Node) (m : Message) : Prop where
  address : m.address = node.address
  request : q.bytes node.account = .ok m.request

/-- A message to a node that was answered with something accepted. -/
structure Accepted (q : Inquiry α) (node : Node) (m : Message) (a : α) : Prop
    extends q.Asks node m where
  answer : ∃ response, m.response = .ok response ∧ q.verdict response = .accept ∧
    q.answer node.account response = .ok a

/-- What an inquiry sends to some nodes, and its result. -/
structure Correspondence (q : Inquiry α) (nodes : List Node) (ms : List Message)
    (result : Except Error α) : Prop where
  /-- Every message carries the request for one of the nodes. -/
  asks : ∀ m ∈ ms, ∃ node ∈ nodes, q.Asks node m
  /-- The answer is that to the last message. -/
  answered : ∀ a, result = .ok a → ∃ earlier m, ms = earlier ++ [m] ∧
    ∃ node ∈ nodes, q.Accepted node m a

theorem Correspondence.of_error (q : Inquiry α) (nodes : List Node) (e : Error) :
    q.Correspondence nodes [] (.error e) where
  asks m hm := by cases hm
  answered a ha := by cases ha

/-- More nodes may be asked. -/
theorem Correspondence.mono {q : Inquiry α} {nodes nodes' : List Node} {ms : List Message}
    {result : Except Error α} (hsubset : nodes ⊆ nodes') (h : q.Correspondence nodes ms result) :
    q.Correspondence nodes' ms result where
  asks m hm := by
    obtain ⟨node, hnode, hasks⟩ := h.asks m hm
    exact ⟨node, hsubset hnode, hasks⟩
  answered a ha := by
    obtain ⟨earlier, m, hms, node, hnode, haccepted⟩ := h.answered a ha
    exact ⟨earlier, m, hms, node, hsubset hnode, haccepted⟩

/-- Messages in front of others. -/
theorem Correspondence.append {q : Inquiry α} {nodes : List Node} {front ms : List Message}
    {result : Except Error α} (hfront : ∀ m ∈ front, ∃ node ∈ nodes, q.Asks node m)
    (h : q.Correspondence nodes ms result) : q.Correspondence nodes (front ++ ms) result where
  asks m hm := by
    obtain hm | hm := List.mem_append.mp hm
    · exact hfront m hm
    · exact h.asks m hm
  answered a ha := by
    obtain ⟨earlier, m, rfl, hlast⟩ := h.answered a ha
    exact ⟨front ++ earlier, m, (List.append_assoc _ _ _).symm, hlast⟩

variable (host : Host ω κ)

/-! ## Between exchanges -/

theorem passive_candidates (q : Inquiry α) :
    Passive id (q.candidates host.recorded) (q.candidates host) := by
  refine passive_client.bind fun c => ?_
  cases q.nodes with
  | nil =>
    refine (passive_sample host _).bind fun nodes => ?_
    cases nodes with
    | nil => exact passive_pure id _
    | cons node rest => exact passive_pure id _
  | cons account rest => exact passive_pure id _

theorem passive_stop? (deadline : Option Moment) :
    Passive id (stop? host.recorded deadline : Run _ (Line κ) (Option Error))
      (stop? host deadline : Run ω κ (Option Error)) := by
  refine (passive_isCancelled host).bind fun cancelled => ?_
  cases cancelled with
  | true => exact passive_pure id _
  | false =>
    cases deadline with
    | none => exact passive_pure id _
    | some deadline =>
      refine (passive_now host).bind fun now => ?_
      exact (passive_pure id _).ite (passive_pure id _)

theorem passive_pick (nodes : List Node) (turn : Nat) :
    Passive id (pick host.recorded nodes turn) (pick host nodes turn) := by
  refine (passive_now host).bind fun now => ?_
  refine passive_client.bind fun c => ?_
  exact passive_pure id _

theorem passive_pause (deadline : Option Moment) (time : Duration) :
    Passive id (pause host.recorded deadline time : Run _ (Line κ) (Option Error))
      (pause host deadline time : Run ω κ (Option Error)) := by
  cases deadline with
  | none => exact (passive_wait host time).bind fun stopped => passive_pure id _
  | some deadline =>
    refine (passive_now host).bind fun now => ?_
    refine (passive_wait host _).bind fun stopped => ?_
    refine (passive_pure id _).ite ?_
    exact (passive_pure id _).ite (passive_pure id _)

/-! ## Exchanges -/

/-- What a pool gives for an address, with labels. -/
def gotten (address : String) (r : Except TransportError κ × Pool κ) :
    Except TransportError (Line κ) × Pool (Line κ) :=
  (r.1.map (Line.mk address), r.2.labelled)

theorem passive_get (p : Pool κ) (address : String) :
    Passive (gotten address)
      (p.labelled.get address fun time => outside (host.recorded.connect address time))
      (p.get address fun time => outside (host.connect address time) :
        Run ω κ (Except TransportError κ × Pool κ)) := by
  unfold Pool.get
  rw [Pool.find?_labelled]
  cases p.find? address with
  | some channel => exact passive_pure (gotten address) (.ok channel, p)
  | none =>
    refine (passive_connect host address _).bind fun opened => ?_
    cases opened with
    | error e => exact passive_pure (gotten address) (.error e, p)
    | ok channel =>
      simp only [Except.map, Pool.enter_labelled]
      exact passive_pure (gotten address) (.ok (p.enter address channel).1, _)

theorem sends_exchange (node : Node) (request : Bytes) (timeout : Duration) (s : Session ω κ) :
    Sends id (exchange host.recorded node request timeout) (exchange host node request timeout) s
      fun ms response _ => Exchanged node.address request ms response := by
  refine passive_client.then fun c s _ _ => ?_
  refine (passive_get host c.pool node.address).then fun got s _ _ => ?_
  obtain ⟨channel, pool⟩ := got
  apply sends_modifyClient_bind fun _ => rfl
  cases channel with
  | error e => exact sends_pure id _ (.unsent e)
  | ok channel =>
    have hsend : ∀ s : Session ω κ, Sends id
        (outside (host.recorded.send ⟨node.address, channel⟩ request timeout))
        (outside (host.send channel request timeout)) s
        fun ms answer _ => ms = [⟨node.address, request, answer⟩] := fun s =>
      sends_outside id (fun answer => .send timeout ⟨node.address, request, answer⟩)
        (fun _ _ => rfl) fun _ _ => rfl
    apply (hsend _).bind
    rintro _ answer s rfl
    cases answer with
    | error e => exact sends_pure id _ (.sent (.error e) rfl)
    | ok answer =>
      cases hresponse : Wire.decode? Wire.response answer with
      | none =>
        simp only [id, Wire.decode, hresponse]
        exact sends_pure id _ (.sent (.ok answer) (by simp only [Message.response, hresponse]))
      | some response =>
        simp only [id, Wire.decode, hresponse]
        exact sends_pure id _ (.sent (.ok answer) (by simp only [Message.response, hresponse]))

/-! ## Attempts -/

variable (q : Inquiry α)

/-- What asking sends: nothing, or what is exchanged with the node whose turn it is. -/
def Asked (nodes : List Node) (ms : List Message) : Except Error Reply → Prop
  | .error _ => ms = []
  | .ok reply => reply.node ∈ nodes ∧ ∃ request, q.bytes reply.node.account = .ok request ∧
      Exchanged reply.node.address request ms reply.response

theorem mem_of_pick {nodes : List Node} {turn : Nat} {s s' : Session ω κ} {node : Node}
    (h : pick host nodes turn s = (some node, s')) : node ∈ nodes := by
  have hne : nodes ≠ [] := by
    rintro rfl
    cases h
  obtain ⟨picked, hmem, hpick⟩ := pick_eq_some host hne turn s
  rw [h] at hpick
  cases hpick
  exact hmem

theorem sends_ask (settings : Settings) (nodes : List Node) (deadline : Option Moment)
    (start : Moment) (turn : Nat) (s : Session ω κ) :
    Sends id (q.ask host.recorded settings nodes deadline start turn)
      (q.ask host settings nodes deadline start turn) s
      fun ms reply _ => q.Asked nodes ms reply := by
  refine (passive_stop? host deadline).then fun stop s _ _ => ?_
  cases stop with
  | some e => exact sends_pure id _ rfl
  | none =>
    refine (passive_pick host nodes turn).then fun picked s' hpick _ => ?_
    cases picked with
    | none => exact sends_pure id _ rfl
    | some node =>
      cases hbytes : q.bytes node.account with
      | error e =>
        simp only [id, hbytes]
        exact sends_pure id _ rfl
      | ok request =>
        simp only [id, hbytes]
        refine (passive_now host).then fun now s _ _ => ?_
        apply (sends_exchange host node request _ s).bind
        intro ms response s hexchanged
        apply sends_pure id
        rw [List.append_nil]
        exact ⟨mem_of_pick host hpick, request, hbytes, hexchanged⟩

theorem evict_labelled (c : Client κ) (address : String) :
    c.labelled.evict address = (c.evict address).labelled := by
  simp only [Client.evict, Client.labelled, Pool.evict_labelled]

theorem sends_judge (node : Node) (response : Response) (s : Session ω κ) :
    Sends id (q.judge host.recorded node response) (q.judge host node response) s
      fun ms a _ => ms = [] ∧ a = q.fate ⟨node, .ok response⟩ := by
  unfold judge
  simp only [fate]
  cases q.verdict response with
  | accept =>
    apply sends_modifyClient_bind fun _ => rfl
    exact sends_pure id _ ⟨rfl, rfl⟩
  | reject status => exact sends_pure id _ ⟨rfl, rfl⟩
  | retry status =>
    by_cases hbench : status = .busy ∨ status = .platformNotActive
    · simp only [if_pos hbench]
      refine (passive_now host).then fun now s _ _ => ?_
      apply sends_modifyClient_bind fun _ => rfl
      exact sends_pure id _ ⟨rfl, rfl⟩
    · simp only [if_neg hbench]
      exact sends_pure id _ ⟨rfl, rfl⟩

theorem correspondence_of_exchanged {nodes : List Node} {node : Node} (hnode : node ∈ nodes)
    {request : Bytes} (hbytes : q.bytes node.account = .ok request) {ms : List Message}
    {response : Except Error Response} (h : Exchanged node.address request ms response) :
    q.Correspondence nodes ms (q.fate ⟨node, response⟩).result := by
  cases h with
  | unsent e => exact .of_error q nodes _
  | sent answer hresponse =>
    have hasks : q.Asks node ⟨node.address, request, answer⟩ := ⟨rfl, hbytes⟩
    refine ⟨fun m hm => ⟨node, hnode, List.mem_singleton.mp hm ▸ hasks⟩, ?_⟩
    intro a ha
    refine ⟨[], _, rfl, node, hnode, hasks, ?_⟩
    cases response with
    | error e => cases ha
    | ok response =>
      refine ⟨response, hresponse, ?_⟩
      cases hverdict : q.verdict response with
      | accept =>
        simp only [fate, hverdict, Attempt.result] at ha
        exact ⟨rfl, ha⟩
      | reject status | retry status =>
        simp only [fate, hverdict, Attempt.result] at ha
        cases ha

theorem sends_attempt (settings : Settings) (nodes : List Node) (deadline : Option Moment)
    (start : Moment) (turn : Nat) (s : Session ω κ) :
    Sends id (q.attempt host.recorded settings nodes deadline start turn)
      (q.attempt host settings nodes deadline start turn) s
      fun ms a _ => q.Correspondence nodes ms a.result := by
  apply (q.sends_ask host settings nodes deadline start turn s).bind
  intro ms reply s hasked
  cases reply with
  | error e =>
    obtain rfl : ms = [] := hasked
    exact sends_pure id _ (.of_error q nodes e)
  | ok reply =>
    obtain ⟨node, response⟩ := reply
    obtain ⟨hnode, request, hbytes, hexchanged⟩ := hasked
    have hcorresponds := q.correspondence_of_exchanged hnode hbytes hexchanged
    cases response with
    | ok response =>
      apply (q.sends_judge host node response s).mono
      rintro _ a _ ⟨rfl, rfl⟩
      rwa [List.append_nil]
    | error e =>
      refine (passive_now host).then fun now s _ _ => ?_
      apply sends_modifyClient_bind
      · intro c
        exact evict_labelled (c.bench now node.address) _
      · apply sends_pure id
        rwa [List.append_nil]

/-- Attempt after attempt, all messages carry requests, and the answer is that to the last one. -/
theorem sends_attempts (settings : Settings) (nodes : List Node) (deadline : Option Moment)
    (start : Moment) (left turn : Nat) (s : Session ω κ) :
    Sends id (q.attempts host.recorded settings nodes deadline start left turn)
      (q.attempts host settings nodes deadline start left turn) s
      fun ms result _ => q.Correspondence nodes ms result := by
  -- An attempt that failed has sent requests only, so what is left decides about the answer.
  induction left generalizing turn s with
  | zero =>
    rw [attempts, attempts]
    apply (q.sends_attempt host settings nodes deadline start turn s).bind
    intro ms a s hfront
    cases a with
    | ended result =>
      apply sends_pure id
      rwa [List.append_nil]
    | failed last => exact sends_pure id _ ((Correspondence.of_error q nodes _).append hfront.asks)
  | succ left ih =>
    rw [attempts, attempts]
    apply (q.sends_attempt host settings nodes deadline start turn s).bind
    intro ms a s hfront
    cases a with
    | ended result =>
      apply sends_pure id
      rwa [List.append_nil]
    | failed last =>
      refine (passive_now host).then fun now s _ _ => ?_
      simp only [id]
      cases outOfTime? settings (now - start) (settings.backoff (turn + 1)) last with
      | some e => exact sends_pure id _ ((Correspondence.of_error q nodes _).append hfront.asks)
      | none =>
        refine (passive_pause host deadline _).then fun stop s _ _ => ?_
        cases stop with
        | some e => exact sends_pure id _ ((Correspondence.of_error q nodes _).append hfront.asks)
        | none => exact (ih (turn + 1) s).mono fun ms' result _ h => h.append hfront.asks

/-! ## Inquiries -/

theorem nodesOf_subset {c : Client κ} {accounts : List EntityId} {nodes : List Node}
    (h : c.nodesOf accounts = .ok nodes) : nodes ⊆ c.nodes := by
  intro node hnode
  obtain ⟨account, _, hfound⟩ := exists_of_forall₂_of_mem (forall₂_of_mapM_eq_ok h) hnode
  unfold Client.nodeOf at hfound
  split at hfound
  · rename_i found hfind
    cases hfound
    exact List.mem_of_find?_eq_some hfind
  · cases hfound

/-- Only nodes of the client are asked. -/
theorem candidates_subset {nodes : List Node} {s : Session ω κ}
    (h : (q.candidates host s).1 = .ok nodes) : nodes ⊆ s.client.nodes := by
  simp only [candidates, bind_apply, client_apply] at h
  cases haccounts : q.nodes with
  | nil =>
    simp only [haccounts, bind_apply] at h
    have hsample := (sampled_sample host s.client.settings.maxNodes s).subset
    cases hnodes : (sample host s.client.settings.maxNodes s).1 with
    | nil =>
      rw [hnodes] at h
      cases h
    | cons node rest =>
      rw [hnodes] at h hsample
      cases h
      exact hsample
  | cons account rest =>
    rw [haccounts] at h
    exact nodesOf_subset h

/-- What an inquiry sends to nodes of the client, and its result. -/
theorem sends_run (deadline : Option Moment) (s : Session ω κ) :
    Sends id (q.run host.recorded deadline) (q.run host deadline) s
      fun ms result _ => q.Correspondence s.client.nodes ms result := by
  refine passive_client.then fun c s' _ hsame => ?_
  have hlabelled : q.check c.labelled = q.check c := rfl
  rw [hlabelled]
  cases hcheck : q.check c with
  | error e => exact sends_pure id _ (.of_error q _ e)
  | ok u =>
    refine (passive_candidates host q).then fun nodes s'' hnodes _ => ?_
    cases nodes with
    | error e => exact sends_pure id _ (.of_error q _ e)
    | ok nodes =>
      have hsubset : nodes ⊆ s'.client.nodes := by
        apply q.candidates_subset host
        rw [hnodes]
      rw [hsame] at hsubset
      refine (passive_now host).then fun start s _ _ => ?_
      exact (q.sends_attempts host c.settings nodes deadline start _ 0 s).mono
        fun ms result _ h => h.mono hsubset

end Inquiry

end HbarKit
