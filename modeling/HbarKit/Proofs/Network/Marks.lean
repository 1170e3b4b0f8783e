import HbarKit.Proofs.Network.Failover
import HbarKit.Proofs.Network.Health
import HbarKit.Proofs.Network.Replies

/-!
# Marks that inquiries put on nodes

What comes back from a node in an attempt puts a mark on that node or leaves it alone, and nothing
else in an inquiry marks a node. So the marks of all nodes can be read off the log, and however many
inquiries a client makes, the health of its nodes is that of nodes with these marks.
-/
namespace HbarKit

open Run

variable {ω κ α β α₁ β₁ : Type}

/-! ## Runs and the sessions behind them -/

namespace Run

/-- In a session, a recorded run does what a run does, and what it adds to the log, its result and
the session behind it are as `post` says. -/
def Leaves (label : α → α₁) (m₁ : Run (ω × List Event) (Line κ) α₁) (m : Run ω κ α)
    (s : Session ω κ) (post : List Event → α → Session ω κ → Prop) : Prop :=
  Adds label m₁ m s fun added a => post added a (m s).2

section

variable {label : α → α₁} {m₁ : Run (ω × List Event) (Line κ) α₁} {m : Run ω κ α}
  {labelled : β → β₁} {f₁ : α₁ → Run (ω × List Event) (Line κ) β₁} {f : α → Run ω κ β}
  {s : Session ω κ} {post : List Event → α → Session ω κ → Prop}

theorem Leaves.mono {post' : List Event → α → Session ω κ → Prop} (h : Leaves label m₁ m s post)
    (hpost : ∀ added a s', post added a s' → post' added a s') : Leaves label m₁ m s post' :=
  Adds.mono h fun added a => hpost added a _

theorem Leaves.bind {post' : List Event → β → Session ω κ → Prop}
    (hm : Leaves label m₁ m s post)
    (hf : ∀ added a s', m s = (a, s') → post added a s' →
      Leaves labelled (f₁ (label a)) (f a) s' fun added' b s'' => post' (added ++ added') b s'') :
    Leaves labelled (m₁ >>= f₁) (m >>= f) s post' := by
  apply Adds.bind hm
  intro added a s' hs hpost
  have hrest := hf added a s' hs (by rwa [hs] at hpost)
  have hboth : (m >>= f) s = f a s' := by rw [bind_apply, hs]
  rw [hboth]
  exact hrest

theorem leaves_pure (label : α → α₁) (a : α) (h : post [] a s) :
    Leaves label (pure (label a) : Run (ω × List Event) (Line κ) α₁) (pure a) s post :=
  adds_pure label a h

/-- Behind a change of the client, all is done by the rest. -/
theorem leaves_modifyClient_bind {change : Client κ → Client κ}
    {change₁ : Client (Line κ) → Client (Line κ)} {f₁ : Unit → Run (ω × List Event) (Line κ) β₁}
    {f : Unit → Run ω κ β} {post : List Event → β → Session ω κ → Prop}
    (h : ∀ c, change₁ c.labelled = (change c).labelled)
    (hf : Leaves labelled (f₁ ()) (f ()) ⟨change s.client, s.outside⟩ post) :
    Leaves labelled (modifyClient change₁ >>= f₁) (modifyClient change >>= f) s post :=
  adds_modifyClient_bind h hf

theorem leaves_now (host : Host ω κ) (s : Session ω κ) :
    Leaves id (outside host.recorded.now : Run _ (Line κ) Moment) (outside host.now) s
      fun added t s' => added = [.now t] ∧ s'.client = s.client :=
  (adds_now host s).mono fun _ _ h => ⟨h, rfl⟩

end

end Run

/-! ## Marked nodes -/

/-- The marks for the node at an address. -/
def marksAt (address : String) (ms : List (String × Mark)) : List Mark :=
  ms.filterMap fun m => if m.1 = address then some m.2 else none

theorem marksAt_append (address : String) (ms ms' : List (String × Mark)) :
    marksAt address (ms ++ ms') = marksAt address ms ++ marksAt address ms' :=
  List.filterMap_append

namespace Node

/-- A node with the marks for its address. -/
def noted (ms : List (String × Mark)) (n : Node) : Node := n.after (marksAt n.address ms)

theorem map_noted_nil (nodes : List Node) : nodes.map (noted []) = nodes := List.map_id nodes

theorem noted_append (ms ms' : List (String × Mark)) :
    noted (ms ++ ms') = noted ms' ∘ noted ms := by
  funext n
  rw [Function.comp_apply, noted, noted, noted, address_after, marksAt_append, after_append]

theorem noted_singleton (address : String) (m : Mark) (n : Node) :
    noted [(address, m)] n = if n.address = address then n.mark m else n := by
  by_cases h : n.address = address
  · simp [noted, marksAt, after, h]
  · simp [noted, marksAt, after, h, Ne.symm h]

end Node

theorem Client.nodes_atNode_mark (c : Client κ) (address : String) (m : Mark) :
    (c.atNode address fun n => n.mark m).nodes = c.nodes.map (Node.noted [(address, m)]) := by
  rw [funext (Node.noted_singleton address m)]
  rfl

/-- Looking for nodes, asking one and pausing leave all nodes as they are. -/
theorem Host.respects_nodes (host : Host ω κ) :
    host.Respects (fun _ => False) fun s s' => s'.client.nodes = s.client.nodes where
  refl _ := rfl
  trans h h' := h'.trans h
  step _ _ := rfl
  pool _ _ _ := rfl
  node _ _ htouched _ := htouched.elim

namespace Inquiry

/-! ## Marks in a log -/

/-- The mark that what came back puts on a node, and the readings of the clock for it: no response
and a busy or inactive node are failures, and an accepted response is a success. A refusal and all
other responses leave the node alone. -/
inductive Marking (q : Inquiry α) : Except Error Response → List Event → Option Mark → Prop
  | lost (e : Error) (time : Moment) : Marking q (.error e) [.now time] (some (.failure time))
  | busy {response : Response} {status : Status} (hverdict : q.verdict response = .retry status)
      (hstatus : status = .busy ∨ status = .platformNotActive) (time : Moment) :
      Marking q (.ok response) [.now time] (some (.failure time))
  | accepted {response : Response} (hverdict : q.verdict response = .accept) :
      Marking q (.ok response) [] (some .success)
  | refused {response : Response} {status : Status}
      (hverdict : q.verdict response = .reject status) : Marking q (.ok response) [] none
  | repeated {response : Response} {status : Status}
      (hverdict : q.verdict response = .retry status)
      (hstatus : ¬ (status = .busy ∨ status = .platformNotActive)) :
      Marking q (.ok response) [] none

/-- The marks that a log tells, each with the address of the node that it is put on. -/
inductive Marks (q : Inquiry α) : List Event → List (String × Mark) → Prop
  | nil : Marks q [] []
  | silent {e : Event} {log : List Event} {ms : List (String × Mark)} (h : e.reply? = none)
      (hrest : Marks q log ms) : Marks q (e :: log) ms
  | reply {e : Event} {address : String} {response : Except Error Response}
      {readings log : List Event} {mark : Option Mark} {ms : List (String × Mark)}
      (h : e.reply? = some (address, response)) (hmarking : q.Marking response readings mark)
      (hrest : Marks q log ms) :
      Marks q (e :: (readings ++ log)) ((mark.map (Prod.mk address)).toList ++ ms)

variable {q : Inquiry α}

theorem marks_of_silent {log : List Event} (h : replies log = []) : q.Marks log [] := by
  induction log with
  | nil => exact .nil
  | cons e log ih =>
    have hsilent := List.filterMap_eq_nil_iff.mp h
    exact .silent (hsilent e List.mem_cons_self)
      (ih (List.filterMap_eq_nil_iff.mpr fun e' he' => hsilent e' (List.mem_cons_of_mem e he')))

theorem Marks.append {log log' : List Event} {ms ms' : List (String × Mark)} (h : q.Marks log ms)
    (h' : q.Marks log' ms') : q.Marks (log ++ log') (ms ++ ms') := by
  induction h with
  | nil => exact h'
  | silent h _ ih => exact .silent h ih
  | reply h hmarking _ ih =>
    rw [List.cons_append, List.append_assoc, List.append_assoc]
    exact .reply h hmarking ih

/-- What came back and the readings behind it determine the mark. -/
theorem Marking.unique {response : Except Error Response} {readings readings' log log' : List Event}
    {mark mark' : Option Mark} (h : q.Marking response readings mark)
    (h' : q.Marking response readings' mark') (hlog : readings ++ log = readings' ++ log') :
    mark = mark' ∧ log = log' := by
  cases h with
  | lost e time =>
    cases h'
    cases hlog
    exact ⟨rfl, rfl⟩
  | busy hverdict hstatus time =>
    cases h' with
    | busy _ _ time' =>
      cases hlog
      exact ⟨rfl, rfl⟩
    | accepted hverdict' | refused hverdict' =>
      rw [hverdict] at hverdict'
      cases hverdict'
    | repeated hverdict' hstatus' =>
      rw [hverdict] at hverdict'
      cases hverdict'
      exact absurd hstatus hstatus'
  | accepted hverdict =>
    cases h' with
    | accepted _ => exact ⟨rfl, hlog⟩
    | busy hverdict' _ _ | refused hverdict' | repeated hverdict' _ =>
      rw [hverdict] at hverdict'
      cases hverdict'
  | refused hverdict =>
    cases h' with
    | refused _ | repeated _ _ => exact ⟨rfl, hlog⟩
    | busy hverdict' _ _ | accepted hverdict' =>
      rw [hverdict] at hverdict'
      cases hverdict'
  | repeated hverdict hstatus =>
    cases h' with
    | refused _ | repeated _ _ => exact ⟨rfl, hlog⟩
    | accepted hverdict' =>
      rw [hverdict] at hverdict'
      cases hverdict'
    | busy hverdict' hstatus' _ =>
      rw [hverdict] at hverdict'
      cases hverdict'
      exact absurd hstatus' hstatus

/-- A log tells its marks in one way. -/
theorem Marks.unique {log : List Event} {ms ms' : List (String × Mark)} (h : q.Marks log ms)
    (h' : q.Marks log ms') : ms = ms' := by
  induction h generalizing ms' with
  | nil =>
    cases h'
    rfl
  | @silent e log ms hnone _ ih =>
    cases h' with
    | silent _ hrest' => exact ih hrest'
    | reply hsome _ _ =>
      rw [hnone] at hsome
      cases hsome
  | @reply e address response readings log mark ms hsome hmarking _ ih =>
    generalize hlog : e :: (readings ++ log) = whole at h'
    cases h' with
    | nil => cases hlog
    | silent hnone _ =>
      cases hlog
      rw [hsome] at hnone
      cases hnone
    | reply hsome' hmarking' hrest' =>
      obtain ⟨rfl, htail⟩ := List.cons.inj hlog
      rw [hsome] at hsome'
      cases hsome'
      obtain ⟨rfl, rfl⟩ := hmarking.unique hmarking' htail
      rw [ih hrest']

/-! ## Marks of an attempt -/

/-- An attempt puts one mark at most, and only on the node that it turns to. -/
structure Touches (q : Inquiry α) (contact : Option Node) (before after : List Node)
    (log : List Event) (ms : List (String × Mark)) : Prop where
  marks : q.Marks log ms
  once : ms.length ≤ 1
  own : ∀ m ∈ ms, ∃ node, contact = some node ∧ m.1 = node.address
  nodes : after = before.map (Node.noted ms)

/-- All other nodes stay as they are. -/
theorem Touches.noted_eq {contact : Option Node} {before after : List Node} {log : List Event}
    {ms : List (String × Mark)} (h : q.Touches contact before after log ms) {n : Node}
    (hn : ∀ node, contact = some node → n.address ≠ node.address) : n.noted ms = n := by
  have hnone : marksAt n.address ms = [] := by
    apply List.filterMap_eq_nil_iff.mpr
    intro m hm
    obtain ⟨node, hnode, hm⟩ := h.own m hm
    rw [if_neg]
    intro haddress
    exact hn node hnode (haddress.symm.trans hm)
  rw [Node.noted, hnone, Node.after_nil]

theorem touches_of_silent {contact : Option Node} {before after : List Node} {log : List Event}
    (hlog : replies log = []) (hnodes : after = before) :
    q.Touches contact before after log [] where
  marks := marks_of_silent hlog
  once := Nat.zero_le 1
  own m hm := by cases hm
  nodes := hnodes.trans (Node.map_noted_nil _).symm

theorem touches_of_marking {node : Node} {before after : List Node} {way readings : List Event}
    {last : Event} {response : Except Error Response} {mark : Option Mark}
    (hway : replies way = []) (hlast : last.reply? = some (node.address, response))
    (hmarking : q.Marking response readings mark)
    (hnodes : after = before.map (Node.noted (mark.map (Prod.mk node.address)).toList)) :
    q.Touches (some node) before after (way ++ last :: readings)
      (mark.map (Prod.mk node.address)).toList where
  marks := by
    have hreply := Marks.reply hlast hmarking .nil
    rw [List.append_nil, List.append_nil] at hreply
    exact (marks_of_silent hway).append hreply
  once := by cases mark <;> simp
  own m hm := by
    obtain ⟨found, -, rfl⟩ := Option.map_eq_some_iff.mp (Option.mem_toList.mp hm)
    exact ⟨node, rfl, rfl⟩
  nodes := hnodes

section

variable (host : Host ω κ) (s : Session ω κ) (q)

/-- What a response means for a node is the mark that it puts on the node. -/
theorem leaves_judge (node : Node) (response : Response) :
    Leaves id (q.judge host.recorded node response) (q.judge host node response) s
      fun readings _ s' => ∃ mark, q.Marking (.ok response) readings mark ∧
        s'.client.nodes = s.client.nodes.map
          (Node.noted (mark.map (Prod.mk node.address)).toList) := by
  unfold judge
  cases hverdict : q.verdict response with
  | accept =>
    apply leaves_modifyClient_bind fun _ => rfl
    exact leaves_pure id _
      ⟨some .success, .accepted hverdict, s.client.nodes_atNode_mark node.address .success⟩
  | reject status =>
    exact leaves_pure id _ ⟨none, .refused hverdict, (Node.map_noted_nil _).symm⟩
  | retry status =>
    by_cases hbench : status = .busy ∨ status = .platformNotActive
    · simp only [if_pos hbench]
      apply (leaves_now host s).bind
      rintro _ time s' - ⟨rfl, hclient⟩
      apply leaves_modifyClient_bind fun _ => rfl
      refine leaves_pure id _ ⟨some (.failure time), .busy hverdict hbench time, ?_⟩
      rw [← hclient]
      exact s'.client.nodes_atNode_mark node.address (.failure time)
    · simp only [if_neg hbench]
      exact leaves_pure id _ ⟨none, .repeated hverdict hbench, (Node.map_noted_nil _).symm⟩

theorem leaves_attempt (settings : Settings) {nodes : List Node} (hne : nodes ≠ [])
    (deadline : Option Moment) (start : Moment) (turn : Nat) :
    Leaves id (q.attempt host.recorded settings nodes deadline start turn)
      (q.attempt host settings nodes deadline start turn) s
      fun added _ s' => ∃ ms, q.Touches
        ((q.ask host settings nodes deadline start turn s).1.toOption.map Reply.node)
        s.client.nodes s'.client.nodes added ms := by
  have hask : Leaves id (q.ask host.recorded settings nodes deadline start turn)
      (q.ask host settings nodes deadline start turn) s fun added reply _ =>
        q.Asking nodes deadline added reply :=
    (adds_ask host s q settings hne deadline start turn).mono fun _ _ h => h.1
  apply hask.bind
  rintro added reply s' hs hasking
  have hnodes := host.respects_nodes.stays_ask q settings nodes deadline start turn s
  rw [hs] at hnodes ⊢
  cases hasking with
  | stopped hlook =>
    refine leaves_pure id _ ⟨[], touches_of_silent ?_ hnodes⟩
    rw [List.append_nil, replies_of_look hlook]
  | @grounded look part node e hlook hpart hnode hbytes =>
    refine leaves_pure id _ ⟨[], touches_of_silent ?_ hnodes⟩
    rw [List.append_nil, replies_append, replies_of_look hlook, replies_of_isQuiet hpart]
    rfl
  | @replied look way last reply hlook hway hnode hlast =>
    obtain ⟨node, response⟩ := reply
    have hsilent : replies (look ++ way) = [] := by
      rw [replies_append, replies_of_look hlook, replies_of_isQuiet hway]
      rfl
    have htouches : ∀ readings mark after, q.Marking response readings mark →
        after = s'.client.nodes.map (Node.noted (mark.map (Prod.mk node.address)).toList) →
        ∃ ms, q.Touches (some node) s.client.nodes after
          (look ++ (way ++ [last]) ++ readings) ms := by
      intro readings mark after hmarking hafter
      have hlog : look ++ (way ++ [last]) ++ readings = look ++ way ++ last :: readings := by simp
      have hsame : s'.client.nodes = s.client.nodes := hnodes
      rw [hsame] at hafter
      rw [hlog]
      exact ⟨_, touches_of_marking hsilent hlast hmarking hafter⟩
    cases response with
    | ok response =>
      apply (q.leaves_judge host s' node response).mono
      rintro readings _ s'' ⟨mark, hmarking, hafter⟩
      exact htouches readings mark _ hmarking hafter
    | error e =>
      apply (leaves_now host s').bind
      rintro _ time s'' - ⟨rfl, hclient⟩
      apply leaves_modifyClient_bind
      · intro c
        exact evict_labelled (c.bench time node.address) _
      · refine leaves_pure id _ (htouches _ _ _ (.lost e time) ?_)
        rw [← hclient]
        exact s''.client.nodes_atNode_mark node.address (.failure time)

end

/-! ## Marks of an inquiry -/

/-- In a session, the marks that a run tells in the log are those that it puts on the nodes. -/
def Notes (q : Inquiry α) (label : β → β₁) (m₁ : Run (ω × List Event) (Line κ) β₁) (m : Run ω κ β)
    (s : Session ω κ) : Prop :=
  Leaves label m₁ m s fun added _ s' =>
    ∃ ms, q.Marks added ms ∧ s'.client.nodes = s.client.nodes.map (Node.noted ms)

section

variable {γ γ₁ : Type} {label : β → β₁} {m₁ : Run (ω × List Event) (Line κ) β₁} {m : Run ω κ β}
  {labelled : γ → γ₁} {f₁ : β₁ → Run (ω × List Event) (Line κ) γ₁} {f : β → Run ω κ γ}
  {s : Session ω κ}

theorem Notes.bind (hm : q.Notes label m₁ m s)
    (hf : ∀ b s', m s = (b, s') → q.Notes labelled (f₁ (label b)) (f b) s') :
    q.Notes labelled (m₁ >>= f₁) (m >>= f) s := by
  apply Leaves.bind hm
  rintro added b s' hs ⟨ms, hmarks, hnodes⟩
  apply (hf b s' hs).mono
  rintro added' _ s'' ⟨ms', hmarks', hnodes'⟩
  refine ⟨ms ++ ms', hmarks.append hmarks', ?_⟩
  rw [hnodes', hnodes, List.map_map, Node.noted_append]

theorem notes_of_silent (h : Adds label m₁ m s fun added _ => replies added = [])
    (hnodes : (m s).2.client.nodes = s.client.nodes) : q.Notes label m₁ m s :=
  h.mono fun _ _ hadded => ⟨[], marks_of_silent hadded, hnodes.trans (Node.map_noted_nil _).symm⟩

theorem notes_pure (label : β → β₁) (b : β) :
    q.Notes label (pure (label b) : Run (ω × List Event) (Line κ) β₁) (pure b) s :=
  notes_of_silent (adds_pure label b rfl) rfl

theorem notes_client_bind {f₁ : Client (Line κ) → Run (ω × List Event) (Line κ) γ₁}
    {f : Client κ → Run ω κ γ} (hf : q.Notes labelled (f₁ s.client.labelled) (f s.client) s) :
    q.Notes labelled (client >>= f₁) (client >>= f) s :=
  adds_client_bind hf

theorem notes_now (host : Host ω κ) (s : Session ω κ) :
    q.Notes id (outside host.recorded.now : Run _ (Line κ) Moment) (outside host.now) s :=
  notes_of_silent ((adds_now host s).mono fun _ _ h => h ▸ rfl) rfl

end

section

variable (host : Host ω κ) (s : Session ω κ) (q)

/-- Attempt after attempt, the log tells the marks that are put on nodes. -/
theorem notes_attempts (settings : Settings) {nodes : List Node} (hne : nodes ≠ [])
    (deadline : Option Moment) (start : Moment) (left turn : Nat) :
    q.Notes id (q.attempts host.recorded settings nodes deadline start left turn)
      (q.attempts host settings nodes deadline start left turn) s := by
  have hattempt : ∀ turn s, q.Notes id
      (q.attempt host.recorded settings nodes deadline start turn)
      (q.attempt host settings nodes deadline start turn) s := fun turn s =>
    (q.leaves_attempt host s settings hne deadline start turn).mono
      fun _ _ _ ⟨ms, htouches⟩ => ⟨ms, htouches.marks, htouches.nodes⟩
  induction left generalizing turn s with
  | zero =>
    rw [attempts, attempts]
    apply (hattempt turn s).bind
    intro a s' _
    cases a with
    | ended result => exact notes_pure id _
    | failed last => exact notes_pure id _
  | succ left ih =>
    rw [attempts, attempts]
    apply (hattempt turn s).bind
    intro a s _
    cases a with
    | ended result => exact notes_pure id _
    | failed last =>
      apply (notes_now host s).bind
      intro time s _
      simp only [id]
      cases outOfTime? settings (time - start) (settings.backoff (turn + 1)) last with
      | some e => exact notes_pure id _
      | none =>
        have hpause := (adds_pause host s deadline (settings.backoff (turn + 1))).mono
          fun _ _ => replies_of_paused
        have hnodes := host.respects_nodes.stays_pause deadline (settings.backoff (turn + 1)) s
        apply (notes_of_silent hpause hnodes).bind
        intro stop s _
        cases stop with
        | some e => exact notes_pure id _
        | none => exact ih s (turn + 1)

/-- An inquiry marks nodes as its log tells. -/
theorem notes_run (deadline : Option Moment) :
    q.Notes id (q.run host.recorded deadline) (q.run host deadline) s := by
  apply notes_client_bind
  have hlabelled : q.check s.client.labelled = q.check s.client := rfl
  rw [hlabelled]
  cases q.check s.client with
  | error e => exact notes_pure id _
  | ok u =>
    have hcandidates := (adds_candidates host s q).mono fun _ _ => replies_of_isReading
    have hnodes := host.respects_nodes.stays_candidates q s
    apply (notes_of_silent hcandidates hnodes).bind
    intro found s' hs
    cases found with
    | error e => exact notes_pure id _
    | ok nodes =>
      have hne : nodes ≠ [] := by
        apply candidates_ne_nil host s q
        rw [hs]
      apply (notes_now host s').bind
      intro start s'' _
      exact q.notes_attempts host s'' s.client.settings hne deadline start _ 0

end

end Inquiry

/-! ## Clients that remember -/

/-- The nodes of a client are those of a network with the marks of a history. -/
def Client.Remembers (c : Client κ) (network : List (String × EntityId))
    (history : List (String × Mark)) : Prop :=
  c.nodes = (Client.ofNetwork network : Client κ).nodes.map (Node.noted history)

theorem Client.remembers_ofNetwork (network : List (String × EntityId)) :
    (Client.ofNetwork network : Client κ).Remembers network [] := (Node.map_noted_nil _).symm

namespace Client.Remembers

variable {c : Client κ} {network : List (String × EntityId)} {history : List (String × Mark)}

/-- More marks make the history longer. -/
theorem append {c' : Client κ} {ms : List (String × Mark)} (h : c.Remembers network history)
    (hnodes : c'.nodes = c.nodes.map (Node.noted ms)) : c'.Remembers network (history ++ ms) := by
  rw [Remembers, hnodes, h, List.map_map, Node.noted_append]

/-- Each node is a new one with the marks for its address. -/
theorem eq_after (h : c.Remembers network history) {n : Node} (hn : n ∈ c.nodes) :
    n = (Node.new n.account n.address).after (marksAt n.address history) := by
  rw [h] at hn
  obtain ⟨n₀, hn₀, rfl⟩ := List.mem_map.mp hn
  have hnew : n₀ = .new n₀.account n₀.address := by
    obtain ⟨⟨address, account⟩, -, rfl⟩ := List.mem_map.mp (List.mem_mergeSort.mp hn₀)
    rfl
  rw [Node.noted, Node.account_after, Node.address_after, ← hnew]

end Client.Remembers

namespace Inquiry

/-- The health of a node follows its history. It tells how many failures there were since the last
success, of which each makes the bench time twice as long, and when the last of them is over, and a
machine that counts in words tells the same. An attempt puts one mark at most, and only on the node
that it turns to, so all others stay as they are. The log of an inquiry tells its marks in just one
way, and the client remembers them behind all that it remembered before. -/
theorem health_follows_history {network : List (String × EntityId)}
    {history : List (String × Mark)} (host : Host ω κ) (q : Inquiry α) (deadline : Option Moment)
    (s : Session ω κ) (hs : s.client.Remembers network history) :
    (∀ account address marks now,
      (((Node.new account address).after marks).bench now).1 =
        min (Duration.ofSeconds 8 * 2 ^ Mark.streak marks) (Duration.ofSeconds 3600) ∧
      (((Node.new account address).after marks).isHealthy now = true ↔
        Mark.streak marks = 0 ∨ ∃ earlier time, marks = earlier ++ [.failure time] ∧
          time + (((Node.new account address).after earlier).bench time).1 ≤ now) ∧
      (Gauge.start.after marks).Shows ((Node.new account address).after marks).health ∧
      Duration.ofSeconds ((Gauge.start.after marks).fail now).1.toNat =
        (((Node.new account address).after marks).bench now).1) ∧
    (∀ n ∈ s.client.nodes,
      n = (Node.new n.account n.address).after (marksAt n.address history)) ∧
    (∀ p, q.pursuit? host deadline s = some p → ∀ turn s',
      Leaves id (q.attempt host.recorded p.settings p.nodes deadline p.start turn)
        (p.attempt turn) s' fun log _ s'' =>
          ∃ ms, q.Touches (p.contact? turn s') s'.client.nodes s''.client.nodes log ms ∧
            ∀ n, (∀ node, p.contact? turn s' = some node → n.address ≠ node.address) →
              Node.noted ms n = n) ∧
    Leaves id (q.run host.recorded deadline) (q.run host deadline) s fun log _ s' =>
      ∃ ms, (∀ ms', q.Marks log ms' ↔ ms' = ms) ∧
        s'.client.Remembers network (history ++ ms) := by
  refine ⟨fun account address marks now => ?_, fun n hn => hs.eq_after hn, fun p hp turn s' => ?_,
    ?_⟩
  · have hshows := Gauge.shows_after account address marks
    exact ⟨Node.bench_after account address marks now,
      Node.isHealthy_after_iff account address marks now, hshows, (hshows.fail now).1⟩
  · have hne := candidates_ne_nil host s q (q.pursuit?_eq_some host deadline s hp).2.1
    unfold pursuit? at hp
    split at hp
    · cases hp
      apply (q.leaves_attempt host s' s.client.settings hne deadline _ turn).mono
      rintro log _ s'' ⟨ms, htouches⟩
      exact ⟨ms, htouches, fun n hn => htouches.noted_eq hn⟩
    · cases hp
  · apply (q.notes_run host s deadline).mono
    rintro log _ s' ⟨ms, hmarks, hnodes⟩
    refine ⟨ms, fun ms' => ⟨fun h => h.unique hmarks, ?_⟩, hs.append hnodes⟩
    rintro rfl
    exact hmarks

theorem health_follows_history_offline :
    let s : Session Moment Unit := ⟨.ofNetwork pairNetwork, 0⟩
    s.client.Remembers pairNetwork [] ∧
      Leaves id (openInquiry.run offlineHost.recorded none) (openInquiry.run offlineHost none) s
        fun log _ s' => ∃ ms, openInquiry.Marks log ms ∧ s'.client.Remembers pairNetwork ms := by
  have hnew := Client.remembers_ofNetwork (κ := Unit) pairNetwork
  refine ⟨hnew, ?_⟩
  obtain ⟨-, -, -, hrun⟩ := health_follows_history offlineHost openInquiry none
    ⟨.ofNetwork pairNetwork, 0⟩ hnew
  apply hrun.mono
  rintro log _ s' ⟨ms, hmarks, hremembers⟩
  exact ⟨ms, (hmarks ms).mpr rfl, hremembers⟩

end Inquiry

end HbarKit
