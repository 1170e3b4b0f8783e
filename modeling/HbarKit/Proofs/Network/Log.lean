import HbarKit.Proofs.Network.Recording

/-!
# Events of a run

What a run adds to the log, put together from what its parts add, and how to speak of every place in
a log that is put together.
-/
namespace HbarKit

variable {ω κ α β α₁ β₁ : Type}

/-! ## Kinds of events -/

namespace Event

/-- A look whether the caller asked to stop. -/
def isLook : Event → Bool
  | .isCancelled _ => true
  | _ => false

/-- An event in which the client only learns something. -/
def isReading : Event → Bool
  | .now _ | .date _ | .random _ => true
  | _ => false

/-- A connection or a message. -/
def isExchange : Event → Bool
  | .connect .. | .send .. => true
  | _ => false

end Event

/-- How often the client looked whether its caller asked to stop. -/
def looks (log : List Event) : Nat := log.countP Event.isLook

@[simp] theorem looks_append (log log' : List Event) :
    looks (log ++ log') = looks log + looks log' := List.countP_append

theorem looks_eq_zero {log : List Event} (h : ∀ e ∈ log, e.isLook = false) : looks log = 0 := by
  rw [looks, List.countP_eq_zero]
  intro e he
  simp [h e he]

@[simp] theorem looks_now (t : Moment) : looks [.now t] = 0 := rfl

theorem looks_of_isReading {log : List Event} (h : ∀ e ∈ log, e.isReading = true) :
    looks log = 0 := by
  apply looks_eq_zero
  intro e he
  have hreading := h e he
  cases e with
  | isCancelled answer => cases hreading
  | _ => rfl

/-! ## Places in a log -/

/-- What holds at every place in a part of a log: of the events before it, the event there and the
events after it. -/
def Places (P : List Event → Event → List Event → Prop) (front part back : List Event) : Prop :=
  ∀ before e after, part = before ++ e :: after → P (front ++ before) e (after ++ back)

section

variable {P : List Event → Event → List Event → Prop}

theorem places_nil (front back : List Event) : Places P front [] back := by
  intro before e after h
  simp at h

theorem places_cons {front part back : List Event} {e : Event} : Places P front (e :: part) back ↔
    P front e (part ++ back) ∧ Places P (front ++ [e]) part back := by
  constructor
  · intro h
    constructor
    · have hfirst := h [] e part rfl
      rwa [List.append_nil] at hfirst
    · intro before e' after hpart
      have hlater := h (e :: before) e' after (by rw [hpart, List.cons_append])
      rwa [List.append_cons] at hlater
  · rintro ⟨hfirst, hlater⟩ before e' after hpart
    cases before with
    | nil =>
      obtain ⟨rfl, rfl⟩ := List.cons.inj hpart
      rwa [List.append_nil]
    | cons x before =>
      obtain ⟨rfl, rfl⟩ := List.cons.inj hpart
      rw [List.append_cons]
      exact hlater before e' after rfl

theorem places_append {front part part' back : List Event} :
    Places P front (part ++ part') back ↔
      Places P front part (part' ++ back) ∧ Places P (front ++ part) part' back := by
  induction part generalizing front with
  | nil => simp [places_nil]
  | cons e part ih =>
    rw [List.cons_append, places_cons, places_cons, ih, List.append_assoc, and_assoc,
      List.append_assoc, List.singleton_append]

theorem places_singleton {front back : List Event} {e : Event} :
    Places P front [e] back ↔ P front e back := by
  rw [places_cons, List.nil_append]
  exact and_iff_left (places_nil _ _)

end

/-! ## Addresses in a log -/

/-- Where a connection or a message goes. -/
def Event.address? : Event → Option String
  | .connect address _ _ => some address
  | .send _ message => some message.address
  | _ => none

/-- Only exchanges go somewhere. -/
theorem Event.exists_address_iff (e : Event) :
    (∃ address, e.address? = some address) ↔ e.isExchange = true := by
  cases e with
  | _ => simp [address?, isExchange]

/-- The addresses that something went to. -/
def addresses (log : List Event) : List String := log.filterMap Event.address?

@[simp] theorem addresses_append (log log' : List Event) :
    addresses (log ++ log') = addresses log ++ addresses log' := List.filterMap_append

@[simp] theorem addresses_isCancelled_cons (answer : Bool) (log : List Event) :
    addresses (.isCancelled answer :: log) = addresses log := rfl

/-- When `front` looks came before a log, there is a place in it behind as many as `n` looks where
something went to an address. -/
def Reaches (front : Nat) (log : List Event) (n : Nat) (address : String) : Prop :=
  ∃ before e after, log = before ++ e :: after ∧ front + looks before = n ∧
    e.address? = some address

theorem reaches_append {front n : Nat} {log log' : List Event} {address : String} :
    Reaches front (log ++ log') n address ↔
      Reaches front log n address ∨ Reaches (front + looks log) log' n address := by
  constructor
  · rintro ⟨before, e, after, hlog, hn, he⟩
    obtain ⟨rest, rfl, rfl⟩ | ⟨rest, rfl, hrest⟩ := List.append_eq_append_iff.mp hlog
    · refine .inr ⟨rest, e, after, rfl, ?_, he⟩
      rw [← hn, looks_append, Nat.add_assoc]
    · cases rest with
      | nil =>
        refine .inr ⟨[], e, after, hrest.symm, ?_, he⟩
        rw [← hn, List.append_nil]
        rfl
      | cons e' rest =>
        obtain ⟨rfl, rfl⟩ := List.cons.inj hrest
        exact .inl ⟨before, _, rest, rfl, hn, he⟩
  · rintro (⟨before, e, after, rfl, hn, he⟩ | ⟨before, e, after, rfl, hn, he⟩)
    · exact ⟨before, e, after ++ log', by simp, hn, he⟩
    · refine ⟨log ++ before, e, after, by simp, ?_, he⟩
      rw [← hn, looks_append, Nat.add_assoc]

/-- Without a look in between, all places are behind as many looks. -/
theorem reaches_of_looks_eq_zero {front n : Nat} {log : List Event} {address : String}
    (h : looks log = 0) :
    Reaches front log n address ↔ n = front ∧ address ∈ addresses log := by
  constructor
  · rintro ⟨before, e, after, rfl, hn, he⟩
    rw [looks_append] at h
    constructor
    · omega
    · exact List.mem_filterMap.mpr ⟨e, by simp, he⟩
  · rintro ⟨rfl, haddress⟩
    obtain ⟨e, hmem, he⟩ := List.mem_filterMap.mp haddress
    obtain ⟨before, after, rfl⟩ := List.append_of_mem hmem
    rw [looks_append] at h
    exact ⟨before, e, after, rfl, by omega, he⟩

/-! ## Lulls -/

/-- Nothing goes anywhere, and nobody looks whether to stop. -/
structure Lull (part : List Event) : Prop where
  looks : looks part = 0
  addresses : addresses part = []

theorem Lull.append {part part' : List Event} (h : Lull part) (h' : Lull part') :
    Lull (part ++ part') where
  looks := by rw [looks_append, h.looks, h'.looks]
  addresses := by rw [addresses_append, h.addresses, h'.addresses, List.append_nil]

theorem lull_nil : Lull [] := ⟨rfl, rfl⟩

theorem lull_now (t : Moment) : Lull [.now t] := ⟨rfl, rfl⟩

theorem lull_of_isReading {part : List Event} (h : ∀ e ∈ part, e.isReading = true) : Lull part where
  looks := looks_of_isReading h
  addresses := by
    rw [addresses, List.filterMap_eq_nil_iff]
    intro e he
    have hreading := h e he
    cases e with
    | connect address time fault => cases hreading
    | send time message => cases hreading
    | _ => rfl

theorem reaches_of_lull {front n : Nat} {part : List Event} {address : String} (h : Lull part) :
    ¬ Reaches front part n address := by
  rw [reaches_of_looks_eq_zero h.looks, h.addresses]
  simp

/-! ## What runs add to a log -/

namespace Run

/-- In a session, a recorded run does what a run does, and what it adds to the log and its result
are as `post` says. -/
structure Adds (label : α → α₁) (m₁ : Run (ω × List Event) (Line κ) α₁) (m : Run ω κ α)
    (s : Session ω κ) (post : List Event → α → Prop) : Prop where
  sends : Sends label m₁ m s fun _ _ _ => True
  post : post (log m₁ s) (m s).1

section

variable {label : α → α₁} {m₁ : Run (ω × List Event) (Line κ) α₁} {m : Run ω κ α}
  {labelled : β → β₁} {f₁ : α₁ → Run (ω × List Event) (Line κ) β₁} {f : α → Run ω κ β}
  {s : Session ω κ}

theorem Adds.mono {post post' : List Event → α → Prop} (h : Adds label m₁ m s post)
    (hpost : ∀ added a, post added a → post' added a) : Adds label m₁ m s post' :=
  ⟨h.sends, hpost _ _ h.post⟩

/-- A run adds what its first part adds and then what the rest of it adds. -/
theorem Adds.bind {post : List Event → α → Prop} {post' : List Event → β → Prop}
    (hm : Adds label m₁ m s post)
    (hf : ∀ added a s', m s = (a, s') → post added a →
      Adds labelled (f₁ (label a)) (f a) s' fun added' b => post' (added ++ added') b) :
    Adds labelled (m₁ >>= f₁) (m >>= f) s post' := by
  have hrest := hf _ _ _ rfl hm.post
  have hlog : log (m₁ >>= f₁) s = log m₁ s ++ log (f₁ (label (m s).1)) (m s).2 := by
    rw [log, bind_apply, hm.sends.mirrors, hrest.sends.mirrors]
    rfl
  constructor
  · have hsame : Sends label m₁ m s fun _ a s' => m s = (a, s') := ⟨hm.sends.mirrors, rfl⟩
    apply hsame.bind
    rintro _ a s' hs
    rw [hs] at hrest
    exact hrest.sends
  · rw [hlog]
    exact hrest.post

theorem adds_pure (label : α → α₁) (a : α) {post : List Event → α → Prop} (h : post [] a) :
    Adds label (pure (label a) : Run (ω × List Event) (Line κ) α₁) (pure a) s post :=
  ⟨sends_pure label a trivial, h⟩

/-- What happens outside adds its entry. -/
theorem adds_outside (label : α → α₁) {act : ω → α × ω}
    {act₁ : ω × List Event → α₁ × (ω × List Event)} (event : α → Event)
    (h : ∀ w before, act₁ (w, before) =
      (label (act w).1, ((act w).2, before ++ [event (act w).1]))) :
    Adds label (outside act₁ : Run _ (Line κ) α₁) (outside act) s
      fun added a => added = [event a] := by
  refine ⟨sends_outside label event h fun _ _ => trivial, ?_⟩
  rw [log, Session.recorded, outside_apply, h]
  rfl

/-- Behind a change of the client, all is added by the rest. -/
theorem adds_modifyClient_bind {change : Client κ → Client κ}
    {change₁ : Client (Line κ) → Client (Line κ)} {f₁ : Unit → Run (ω × List Event) (Line κ) β₁}
    {f : Unit → Run ω κ β} {post : List Event → β → Prop}
    (h : ∀ c, change₁ c.labelled = (change c).labelled)
    (hf : Adds labelled (f₁ ()) (f ()) ⟨change s.client, s.outside⟩ post) :
    Adds labelled (modifyClient change₁ >>= f₁) (modifyClient change >>= f) s post := by
  refine ⟨sends_modifyClient_bind h hf.sends, ?_⟩
  have hlog : log (modifyClient change₁ >>= f₁) s = log (f₁ ()) ⟨change s.client, s.outside⟩ := by
    change (f₁ () ⟨change₁ s.client.labelled, (s.outside, [])⟩).2.outside.2 = _
    rw [h]
    rfl
  rw [hlog]
  exact hf.post

/-- Behind a look at the client, all is added by the rest. -/
theorem adds_client_bind {f₁ : Client (Line κ) → Run (ω × List Event) (Line κ) β₁}
    {f : Client κ → Run ω κ β} {post : List Event → β → Prop}
    (hf : Adds labelled (f₁ s.client.labelled) (f s.client) s post) :
    Adds labelled (client >>= f₁) (client >>= f) s post :=
  ⟨passive_client.then fun _ _ hs _ => by cases hs; exact hf.sends, hf.post⟩

end

/-! ## Steps of a host -/

section Host

variable (host : Host ω κ) (s : Session ω κ)

theorem adds_now : Adds id (outside host.recorded.now : Run _ (Line κ) Moment) (outside host.now) s
    fun added t => added = [.now t] :=
  adds_outside id .now fun _ _ => rfl

theorem adds_isCancelled :
    Adds id (outside host.recorded.isCancelled : Run _ (Line κ) Bool) (outside host.isCancelled) s
      fun added answer => added = [.isCancelled answer] :=
  adds_outside id .isCancelled fun _ _ => rfl

theorem adds_wait (time : Duration) :
    Adds id (outside (host.recorded.wait time) : Run _ (Line κ) Bool) (outside (host.wait time)) s
      fun added stopped => added = [.wait time stopped] :=
  adds_outside id (.wait time) fun _ _ => rfl

theorem adds_connect (address : String) (time : Duration) :
    Adds (Except.map (Line.mk address))
      (outside (host.recorded.connect address time) :
        Run _ (Line κ) (Except TransportError (Line κ)))
      (outside (host.connect address time)) s
      fun added r => added = [.connect address time (fault? r)] :=
  adds_outside _ (fun r => .connect address time (fault? r)) fun _ _ => rfl

theorem adds_send (line : Line κ) (request : Bytes) (time : Duration) :
    Adds id (outside (host.recorded.send line request time) :
        Run _ (Line κ) (Except TransportError Bytes))
      (outside (host.send line.channel request time)) s
      fun added answer => added = [.send time ⟨line.address, request, answer⟩] :=
  adds_outside id (fun answer => .send time ⟨line.address, request, answer⟩) fun _ _ => rfl

/-- Drawing numbers adds readings only. -/
theorem adds_draw (count : Nat) : Adds id (draw host.recorded count) (draw host count) s
    fun added _ => ∀ e ∈ added, e.isReading = true := by
  induction count generalizing s with
  | zero => exact adds_pure id [] (by simp)
  | succ count ih =>
    have hrandom : Adds id (outside host.recorded.random : Run _ (Line κ) Nat)
        (outside host.random) s fun added n => added = [.random n] :=
      adds_outside id .random fun _ _ => rfl
    apply hrandom.bind
    rintro _ n s' - rfl
    apply (ih s').bind
    intro added rest s'' _ hadded
    apply adds_pure id
    rw [List.append_nil]
    exact List.forall_mem_cons.mpr ⟨rfl, hadded⟩

theorem adds_shuffle (items : List α) :
    Adds id (shuffle host.recorded items) (shuffle host items) s
      fun added _ => ∀ e ∈ added, e.isReading = true := by
  apply (adds_draw host s items.length).bind
  intro added choices s' _ hadded
  apply adds_pure id
  rwa [List.append_nil]

theorem adds_sample (count : Nat) : Adds id (sample host.recorded count) (sample host count) s
    fun added _ => ∀ e ∈ added, e.isReading = true := by
  apply (adds_now host s).bind
  rintro _ t s - rfl
  apply adds_client_bind
  apply (adds_shuffle host s _).bind
  intro first healthy s _ hfirst
  apply (adds_shuffle host s _).bind
  intro second benched s _ hsecond
  apply adds_pure id
  rw [List.append_nil, List.singleton_append]
  exact List.forall_mem_cons.mpr ⟨rfl, List.forall_mem_append.mpr ⟨hfirst, hsecond⟩⟩

end Host

end Run

end HbarKit
