import HbarKit.Proofs.Network.Run

/-!
# What a client does to the world

A host can keep a log of all that a client does to the world. To tell where bytes are sent, every
channel carries the address that it was opened to. Neither the log nor the addresses are seen by the
client: what it does in a recorded world is what it does in the world as it is, and the log only
grows by what it did.
-/
namespace HbarKit

/-! ## Logs -/

/-- Bytes sent to an address, and what came back. -/
structure Message where
  address : String
  request : Bytes
  answer : Except TransportError Bytes

/-- Something a client does to the world, with what it gets from that. -/
inductive Event where
  | now (time : Moment)
  | date (nanos : Int)
  | random (number : Nat)
  | isCancelled (answer : Bool)
  | wait (time : Duration) (stopped : Bool)
  | connect (address : String) (time : Duration) (fault : Option TransportError)
  | send (time : Duration) (message : Message)

/-- The messages of a log. -/
def messages (log : List Event) : List Message :=
  log.filterMap fun
    | .send _ message => some message
    | _ => none

@[simp] theorem messages_append (log log' : List Event) :
    messages (log ++ log') = messages log ++ messages log' := List.filterMap_append

/-! ## Recorded worlds -/

/-- A channel and the address that it was opened to. -/
structure Line (κ : Type) where
  address : String
  channel : κ

variable {ω κ α β α₁ β₁ : Type}

/-- Something that happens in a world, with an entry in the log. -/
def noted (act : ω → α × ω) (event : α → Event) (w : ω × List Event) : α × (ω × List Event) :=
  ((act w.1).1, ((act w.1).2, w.2 ++ [event (act w.1).1]))

/-- The fault of something that failed. -/
def fault? : Except TransportError α → Option TransportError
  | .ok _ => none
  | .error e => some e

/-- The host that keeps a log. -/
def Host.recorded (host : Host ω κ) : Host (ω × List Event) (Line κ) where
  now := noted host.now .now
  date := noted host.date .date
  random := noted host.random .random
  isCancelled := noted host.isCancelled .isCancelled
  wait time := noted (host.wait time) (.wait time)
  connect address time w :=
    let opened := noted (host.connect address time) (fun r => .connect address time (fault? r)) w
    (opened.1.map (Line.mk address), opened.2)
  send line request time :=
    noted (host.send line.channel request time) fun r => .send time ⟨line.address, request, r⟩

/-- The pool with the address on every channel. -/
def Pool.labelled (p : Pool κ) : Pool (Line κ) where
  connectTime := p.connectTime
  channels := p.channels.map fun c => (c.1, ⟨c.1, c.2⟩)

/-- The client with the address on every channel. -/
def Client.labelled (c : Client κ) : Client (Line κ) where
  nodes := c.nodes
  pool := c.pool.labelled
  ledger := c.ledger
  operator := c.operator
  settings := c.settings

/-- A session whose log is `log` so far. -/
def Session.recorded (s : Session ω κ) (log : List Event) : Session (ω × List Event) (Line κ) where
  client := s.client.labelled
  outside := (s.outside, log)

namespace Pool

theorem find?_labelled (p : Pool κ) (address : String) :
    p.labelled.find? address = (p.find? address).map (Line.mk address) := by
  unfold find? labelled
  rw [List.find?_map]
  cases h : p.channels.find? fun c => c.1 = address with
  | none => simp [h]
  | some c =>
    have haddress : c.1 = address := by simpa using List.find?_some h
    simp [h, haddress]

theorem evict_labelled (p : Pool κ) (address : String) :
    p.labelled.evict address = (p.evict address).labelled := by
  unfold evict labelled
  rw [List.filter_map]
  rfl

theorem enter_labelled (p : Pool κ) (address : String) (channel : κ) :
    p.labelled.enter address (Line.mk address channel) =
      (Line.mk address (p.enter address channel).1, (p.enter address channel).2.labelled) := by
  unfold enter
  rw [find?_labelled]
  cases p.find? address with
  | some present => rfl
  | none => simp [labelled]

end Pool

/-! ## Recorded runs -/

namespace Run

/-- What a recorded run adds to the log. -/
def log (m₁ : Run (ω × List Event) (Line κ) α₁) (s : Session ω κ) : List Event :=
  (m₁ (s.recorded [])).2.outside.2

/-- In a session, a recorded run does what a run does and adds to the log. Its result is that of the
run with labels on the channels in it. What it sends, its result and the session after it are as
`post` says. -/
structure Sends (label : α → α₁) (m₁ : Run (ω × List Event) (Line κ) α₁) (m : Run ω κ α)
    (s : Session ω κ) (post : List Message → α → Session ω κ → Prop) : Prop where
  mirrors : ∀ before,
    m₁ (s.recorded before) = (label (m s).1, (m s).2.recorded (before ++ log m₁ s))
  post : post (messages (log m₁ s)) (m s).1 (m s).2

section

variable {label : α → α₁} {m₁ : Run (ω × List Event) (Line κ) α₁} {m : Run ω κ α}
  {s : Session ω κ} {post : List Message → α → Session ω κ → Prop}

theorem sends_of_log (added : List Event)
    (h : ∀ before, m₁ (s.recorded before) = (label (m s).1, (m s).2.recorded (before ++ added)))
    (hpost : post (messages added) (m s).1 (m s).2) : Sends label m₁ m s post := by
  have hlog : log m₁ s = added := by
    rw [log, h]
    rfl
  constructor
  · rwa [hlog]
  · rwa [hlog]

theorem Sends.mono {post' : List Message → α → Session ω κ → Prop} (h : Sends label m₁ m s post)
    (hpost : ∀ ms a s', post ms a s' → post' ms a s') : Sends label m₁ m s post' :=
  ⟨h.mirrors, hpost _ _ _ h.post⟩

/-- A run sends what its first part sends and then what the rest of it sends. -/
theorem Sends.bind {labelled : β → β₁} {f₁ : α₁ → Run (ω × List Event) (Line κ) β₁}
    {f : α → Run ω κ β} {post' : List Message → β → Session ω κ → Prop}
    (hm : Sends label m₁ m s post)
    (hf : ∀ ms a s', post ms a s' →
      Sends labelled (f₁ (label a)) (f a) s' fun ms' b s'' => post' (ms ++ ms') b s'') :
    Sends labelled (m₁ >>= f₁) (m >>= f) s post' := by
  have hrest := hf _ _ _ hm.post
  apply sends_of_log (log m₁ s ++ log (f₁ (label (m s).1)) (m s).2)
  · intro before
    rw [bind_apply, hm.mirrors, hrest.mirrors, bind_apply, List.append_assoc]
  · rw [messages_append]
    exact hrest.post

theorem sends_pure (label : α → α₁) (a : α) (hpost : post [] a s) :
    Sends label (pure (label a) : Run (ω × List Event) (Line κ) α₁) (pure a) s post :=
  sends_of_log [] (fun before => by simp) hpost

/-- What happens outside is logged. -/
theorem sends_outside (label : α → α₁) {act : ω → α × ω}
    {act₁ : ω × List Event → α₁ × (ω × List Event)} (event : α → Event)
    (h : ∀ w before, act₁ (w, before) =
      (label (act w).1, ((act w).2, before ++ [event (act w).1])))
    (hpost : ∀ a w, post (messages [event a]) a ⟨s.client, w⟩) :
    Sends label (outside act₁ : Run _ (Line κ) α₁) (outside act) s post := by
  apply sends_of_log [event (act s.outside).1]
  · intro before
    simp only [outside_apply, Session.recorded, h]
  · exact hpost _ _

/-- Behind a change of the client, all is sent by the rest. -/
theorem sends_modifyClient_bind {labelled : β → β₁} {change : Client κ → Client κ}
    {change₁ : Client (Line κ) → Client (Line κ)} {f₁ : Unit → Run (ω × List Event) (Line κ) β₁}
    {f : Unit → Run ω κ β} {post : List Message → β → Session ω κ → Prop}
    (h : ∀ c, change₁ c.labelled = (change c).labelled)
    (hf : Sends labelled (f₁ ()) (f ()) ⟨change s.client, s.outside⟩ post) :
    Sends labelled (modifyClient change₁ >>= f₁) (modifyClient change >>= f) s post := by
  have hs : ∀ before, (modifyClient change₁ : Run (ω × List Event) (Line κ) Unit)
      (s.recorded before) = ((), ⟨change₁ s.client.labelled, (s.outside, before)⟩) :=
    fun _ => rfl
  have hmodify : Sends id (modifyClient change₁) (modifyClient change) s
      fun ms _ s' => ms = [] ∧ s' = ⟨change s.client, s.outside⟩ := by
    refine sends_of_log [] (fun before => ?_) ⟨rfl, rfl⟩
    rw [hs, h, List.append_nil]
    rfl
  apply hmodify.bind
  rintro _ _ _ ⟨rfl, rfl⟩
  exact hf

end

/-! ## Runs that send nothing -/

/-- A run that sends nothing and leaves the client as it is. -/
def Passive (label : α → α₁) (m₁ : Run (ω × List Event) (Line κ) α₁) (m : Run ω κ α) : Prop :=
  ∀ s, Sends label m₁ m s fun ms _ s' => ms = [] ∧ s'.client = s.client

section

variable {label : α → α₁} {m₁ : Run (ω × List Event) (Line κ) α₁} {m : Run ω κ α}
  {labelled : β → β₁} {f₁ : α₁ → Run (ω × List Event) (Line κ) β₁} {f : α → Run ω κ β}

theorem Passive.client_eq (hm : Passive label m₁ m) (s : Session ω κ) :
    (m s).2.client = s.client :=
  (hm s).post.2

/-- Behind a run that sends nothing, all is sent by the rest. -/
theorem Passive.then {post : List Message → β → Session ω κ → Prop} {s : Session ω κ}
    (hm : Passive label m₁ m)
    (hf : ∀ a s', m s = (a, s') → s'.client = s.client →
      Sends labelled (f₁ (label a)) (f a) s' post) :
    Sends labelled (m₁ >>= f₁) (m >>= f) s post := by
  have hboth : Sends label m₁ m s fun ms a s' => ms = [] ∧ m s = (a, s') :=
    ⟨(hm s).mirrors, (hm s).post.1, rfl⟩
  apply hboth.bind
  rintro _ a s' ⟨rfl, hs⟩
  have hclient := hm.client_eq s
  rw [hs] at hclient
  exact hf a s' hs hclient

theorem Passive.bind (hm : Passive label m₁ m)
    (hf : ∀ a, Passive labelled (f₁ (label a)) (f a)) :
    Passive labelled (m₁ >>= f₁) (m >>= f) := by
  intro s
  apply hm.then
  intro a s' _ hclient
  have hrest := hf a s'
  rwa [hclient] at hrest

theorem Passive.ite {m₁' : Run (ω × List Event) (Line κ) α₁} {m' : Run ω κ α} {p : Prop}
    [Decidable p] (h : Passive label m₁ m) (h' : Passive label m₁' m') :
    Passive label (if p then m₁ else m₁') (if p then m else m') := by
  by_cases hp : p
  · rwa [if_pos hp, if_pos hp]
  · rwa [if_neg hp, if_neg hp]

end

theorem passive_pure (label : α → α₁) (a : α) :
    Passive label (pure (label a) : Run (ω × List Event) (Line κ) α₁) (pure a : Run ω κ α) :=
  fun _ => sends_pure label a ⟨rfl, rfl⟩

/-- What happens outside is no message unless its entry in the log says so. -/
theorem passive_outside (label : α → α₁) {act : ω → α × ω}
    {act₁ : ω × List Event → α₁ × (ω × List Event)} (event : α → Event)
    (h : ∀ w before, act₁ (w, before) =
      (label (act w).1, ((act w).2, before ++ [event (act w).1])))
    (hevent : ∀ a, messages [event a] = []) :
    Passive label (outside act₁ : Run _ (Line κ) α₁) (outside act : Run ω κ α) :=
  fun _ => sends_outside label event h fun a _ => ⟨hevent a, rfl⟩

theorem passive_client :
    Passive Client.labelled (client : Run (ω × List Event) (Line κ) (Client (Line κ)))
      (client : Run ω κ (Client κ)) := by
  intro s
  refine sends_of_log [] (fun before => ?_) ⟨rfl, rfl⟩
  simp [Session.recorded]

/-! ## Steps of a host -/

section Host

variable (host : Host ω κ)

theorem passive_now : Passive id (outside host.recorded.now : Run _ (Line κ) Moment)
    (outside host.now : Run ω κ Moment) :=
  passive_outside id .now (fun _ _ => rfl) fun _ => rfl

theorem passive_date : Passive id (outside host.recorded.date : Run _ (Line κ) Int)
    (outside host.date : Run ω κ Int) :=
  passive_outside id .date (fun _ _ => rfl) fun _ => rfl

theorem passive_random : Passive id (outside host.recorded.random : Run _ (Line κ) Nat)
    (outside host.random : Run ω κ Nat) :=
  passive_outside id .random (fun _ _ => rfl) fun _ => rfl

theorem passive_isCancelled : Passive id (outside host.recorded.isCancelled : Run _ (Line κ) Bool)
    (outside host.isCancelled : Run ω κ Bool) :=
  passive_outside id .isCancelled (fun _ _ => rfl) fun _ => rfl

theorem passive_wait (time : Duration) :
    Passive id (outside (host.recorded.wait time) : Run _ (Line κ) Bool)
      (outside (host.wait time) : Run ω κ Bool) :=
  passive_outside id (.wait time) (fun _ _ => rfl) fun _ => rfl

theorem passive_connect (address : String) (time : Duration) :
    Passive (Except.map (Line.mk address))
      (outside (host.recorded.connect address time) :
        Run _ (Line κ) (Except TransportError (Line κ)))
      (outside (host.connect address time) : Run ω κ (Except TransportError κ)) :=
  passive_outside _ (fun r => .connect address time (fault? r)) (fun _ _ => rfl) fun _ => rfl

theorem passive_draw (count : Nat) : Passive id (draw host.recorded count) (draw host count) := by
  induction count with
  | zero => exact passive_pure id []
  | succ count ih =>
    refine (passive_random host).bind fun first => ?_
    exact ih.bind fun rest => passive_pure id _

theorem passive_shuffle (items : List α) :
    Passive id (shuffle host.recorded items) (shuffle host items) :=
  (passive_draw host items.length).bind fun _ => passive_pure id _

theorem passive_sample (count : Nat) :
    Passive id (sample host.recorded count) (sample host count) := by
  refine (passive_now host).bind fun now => ?_
  refine passive_client.bind fun c => ?_
  refine (passive_shuffle host _).bind fun healthy => ?_
  refine (passive_shuffle host _).bind fun benched => ?_
  exact passive_pure id _

end Host

end Run

end HbarKit
