import HbarKit.Proofs.Network.Phases

/-!
# Stopping an inquiry

The caller of an inquiry stops it by raising a flag or by a deadline. Both are honoured between
attempts and in the pauses there, and neither touches an attempt that has begun: what comes back
from a node decides alone whether the inquiry is over. All this can be read off the log of an
inquiry, by what stands before and behind the looks of the client, its exchanges and its pauses.
-/
namespace HbarKit

open Run

variable {ω κ α : Type}

namespace Inquiry

/-! ## Signs of stopping -/

/-- The client has just looked and found no reason to stop: since then it has only read the clock or
opened a channel. -/
def Cleared (deadline : Option Moment) (before : List Event) : Prop :=
  ∃ earlier look since, before = earlier ++ look ++ since ∧ Look deadline look none ∧
    ∀ e ∈ since, e.isQuiet = true

/-- What follows when the attempt with the number `count` has failed: the inquiry is over if no
attempts are left, or if the next reading of the clock tells that no time is left for a pause. -/
def Follows (settings : Settings) (deadline : Option Moment) (start : Moment)
    (result : Except Error α) (count : Nat) (last : Error) (after : List Event) : Prop :=
  if settings.maxAttempts ≤ count then
    after = [] ∧ result = .error (.attemptsSpent count last)
  else
    ∃ t rest, after = .now t :: rest ∧
      match outOfTime? settings (t - start) (settings.backoff count) last with
      | some e => rest = [] ∧ result = .error e
      | none => ∃ pause found more, rest = pause ++ more ∧
          Paused deadline (settings.backoff count) pause found

/-- What follows when an exchange of the attempt with the number `count` is over: the fate of what
came back alone decides whether the inquiry is. -/
def Lands (q : Inquiry α) (c : Client κ) (deadline : Option Moment) (start : Moment)
    (result : Except Error α) (count : Nat) (address : String) (response : Except Error Response)
    (after : List Event) : Prop :=
  ∃ node ∈ c.nodes, node.address = address ∧
    match q.fate ⟨node, response⟩ with
    | .ended answer => after = [] ∧ result = answer
    | .failed last => ∃ benching rest, after = benching ++ rest ∧ q.Benching response benching ∧
        Follows c.settings deadline start result count last rest

/-- What follows when there is no reason to stop: an exchange comes to its end, unless there is
nothing to send to the node whose turn it is. -/
def Proceeds (q : Inquiry α) (c : Client κ) (result : Except Error α) (after : List Event) : Prop :=
  ∃ way rest, after = way ++ rest ∧ (∀ e ∈ way, e.isQuiet = true) ∧
    ((∃ last more, rest = last :: more ∧ last.reply?.isSome = true) ∨
      (rest = [] ∧ ∃ node ∈ c.nodes, ∃ e, q.bytes node.account = .error e ∧ result = .error e))

/-- What follows a look that finds the flag down: the inquiry is over if the clock, which is read
next if there is a deadline, has reached it. -/
def Heeds (q : Inquiry α) (c : Client κ) (deadline : Option Moment) (result : Except Error α)
    (after : List Event) : Prop :=
  match deadline with
  | none => q.Proceeds c result after
  | some d => ∃ t rest, after = .now t :: rest ∧
      if d ≤ t then rest = [] ∧ result = .error .deadlinePassed else q.Proceeds c result rest

/-- The next thing is a look whether the inquiry has to stop. -/
def LooksNext (after : List Event) : Prop := ∃ answer rest, after = .isCancelled answer :: rest

/-- A pause that should last for the backoff: it is asked to last till the deadline at most, and it
is the end if the flag is raised in it or the deadline cuts it short. -/
structure Waits (deadline : Option Moment) (result : Except Error α) (backoff : Duration)
    (before : List Event) (time : Duration) (stopped : Bool) (after : List Event) : Prop where
  raised : stopped = true → after = [] ∧ result = .error .cancelled
  free : deadline = none → time = backoff ∧ (stopped = false → LooksNext after)
  limited : ∀ d, deadline = some d → ∃ earlier t, before = earlier ++ [.now t] ∧
    time = min backoff (d - t) ∧ (stopped = false →
      if d - t ≤ backoff then after = [] ∧ result = .error .deadlinePassed else LooksNext after)

/-- How an inquiry of a client that ends with a result honours its caller's wish to stop, at a place
of its log. The attempt that is under way there has the number of looks so far. -/
structure Honours (q : Inquiry α) (c : Client κ) (deadline : Option Moment) (start : Moment)
    (result : Except Error α) (before : List Event) (e : Event) (after : List Event) : Prop where
  /-- The time of an inquiry runs from the reading of the clock before the first look. -/
  first : ∀ answer, e = .isCancelled answer → looks before = 0 →
    ∃ opening, before = opening ++ [.now start]
  /-- A channel is opened and a message is sent only right behind a look that found no reason to
  stop. -/
  allowed : e.isExchange = true → Cleared deadline before
  /-- A look that finds the flag raised is the end. -/
  raised : e = .isCancelled true → after = [] ∧ result = .error .cancelled
  /-- One that finds it down heeds the deadline. -/
  lowered : e = .isCancelled false → q.Heeds c deadline result after
  paused : ∀ time stopped, e = .wait time stopped →
    Waits deadline result (c.settings.backoff (looks before)) before time stopped after
  landed : ∀ address response, e.reply? = some (address, response) →
    q.Lands c deadline start result (looks before) address response after

section

variable {q : Inquiry α} {c : Client κ} {deadline : Option Moment} {start : Moment}
  {result : Except Error α} {front back : List Event}

theorem honours_reading {e : Event} (h : e.isReading = true) :
    q.Honours c deadline start result front e back := by
  constructor
  case first =>
    rintro answer rfl
    cases h
  case allowed =>
    intro he
    cases e <;> cases h <;> cases he
  case raised =>
    rintro rfl
    cases h
  case lowered =>
    rintro rfl
    cases h
  case paused =>
    rintro time stopped rfl
    cases h
  case landed =>
    intro address response he
    cases e <;> cases h <;> cases he

theorem places_readings {part : List Event} (h : ∀ e ∈ part, e.isReading = true) :
    Places (q.Honours c deadline start result) front part back := by
  intro before e after hpart
  apply honours_reading
  apply h
  rw [hpart]
  simp

theorem honours_look {answer : Bool}
    (hfirst : looks front = 0 → ∃ opening, front = opening ++ [.now start])
    (hraised : answer = true → back = [] ∧ result = .error .cancelled)
    (hlowered : answer = false → q.Heeds c deadline result back) :
    q.Honours c deadline start result front (.isCancelled answer) back where
  first _ _ := hfirst
  allowed he := by cases he
  raised he := by
    cases he
    exact hraised rfl
  lowered he := by
    cases he
    exact hlowered rfl
  paused _ _ he := by cases he
  landed _ _ he := by cases he

theorem places_look {look : List Event} {found : Option Error} (hlook : Look deadline look found)
    (hfirst : looks front = 0 → ∃ opening, front = opening ++ [.now start])
    (hfound : ∀ e, found = some e → back = [] ∧ result = .error e)
    (hnone : found = none → q.Proceeds c result back) :
    Places (q.Honours c deadline start result) front look back := by
  cases hlook with
  | cancelled =>
    obtain ⟨rfl, rfl⟩ := hfound _ rfl
    rw [places_singleton]
    exact honours_look hfirst (fun _ => ⟨rfl, rfl⟩) fun he => by cases he
  | free h =>
    subst h
    rw [places_singleton]
    exact honours_look hfirst (fun he => by cases he) fun _ => hnone rfl
  | @late d t h ht =>
    subst h
    obtain ⟨rfl, rfl⟩ := hfound _ rfl
    rw [places_cons, places_singleton]
    refine ⟨honours_look hfirst (fun he => by cases he) fun _ => ?_, honours_reading rfl⟩
    refine ⟨t, [], rfl, ?_⟩
    rw [if_pos ht]
    exact ⟨rfl, rfl⟩
  | @early d t h ht =>
    subst h
    rw [places_cons, places_singleton]
    refine ⟨honours_look hfirst (fun he => by cases he) fun _ => ?_, honours_reading rfl⟩
    refine ⟨t, back, rfl, ?_⟩
    rw [if_neg (Nat.not_le_of_lt ht)]
    exact hnone rfl

theorem honours_wait {time : Duration} {stopped : Bool}
    (h : Waits deadline result (c.settings.backoff (looks front)) front time stopped back) :
    q.Honours c deadline start result front (.wait time stopped) back where
  first _ he := by cases he
  allowed he := by cases he
  raised he := by cases he
  lowered he := by cases he
  paused _ _ he := by
    cases he
    exact h
  landed _ _ he := by cases he

theorem places_pause {pause : List Event} {found : Option Error}
    (hpause : Paused deadline (c.settings.backoff (looks front)) pause found)
    (hfound : ∀ e, found = some e → back = [] ∧ result = .error e)
    (hnone : found = none → LooksNext back) :
    Places (q.Honours c deadline start result) front pause back := by
  cases hpause with
  | free h stopped =>
    rw [places_singleton]
    apply honours_wait
    constructor
    case raised =>
      intro hstopped
      exact hfound _ (by simp [hstopped])
    case free =>
      intro _
      exact ⟨rfl, fun hstopped => hnone (by simp [hstopped])⟩
    case limited =>
      intro d hd
      rw [h] at hd
      cases hd
  | @limited d h t stopped =>
    have hlooks : looks (front ++ [.now t]) = looks front := by simp
    rw [places_cons, places_singleton]
    refine ⟨honours_reading rfl, honours_wait ?_⟩
    rw [hlooks]
    constructor
    case raised =>
      intro hstopped
      exact hfound _ (by simp [hstopped])
    case free =>
      intro hfree
      rw [h] at hfree
      cases hfree
    case limited =>
      intro d' hd
      rw [h] at hd
      cases hd
      refine ⟨front, t, rfl, rfl, fun hstopped => ?_⟩
      by_cases hcut : d - t ≤ c.settings.backoff (looks front)
      · rw [if_pos hcut]
        exact hfound _ (by simp [hstopped, hcut])
      · rw [if_neg hcut]
        exact hnone (by simp [hstopped, hcut])

/-! ## Attempts in flight -/

theorem Cleared.append (h : Cleared deadline front) {part : List Event}
    (hpart : ∀ e ∈ part, e.isQuiet = true) : Cleared deadline (front ++ part) := by
  obtain ⟨earlier, look, since, rfl, hlook, hsince⟩ := h
  refine ⟨earlier, look, since ++ part, List.append_assoc _ _ _, hlook, ?_⟩
  exact List.forall_mem_append.mpr ⟨hsince, hpart⟩

theorem looks_of_isQuiet {part : List Event} (h : ∀ e ∈ part, e.isQuiet = true) :
    looks part = 0 := looks_eq_zero fun e he => Event.isLook_of_isQuiet (h e he)

/-- An answer for good benches no node. -/
theorem benching_of_ended {node : Node} {response : Except Error Response} {part : List Event}
    {answer : Except Error α} (hfate : q.fate ⟨node, response⟩ = .ended answer)
    (h : q.Benching response part) : part = [] := by
  cases h with
  | spared => rfl
  | benched h t =>
    cases response with
    | error e => cases hfate
    | ok response =>
      cases hverdict : q.verdict response with
      | accept => simp [benches, hverdict] at h
      | reject status => simp [benches, hverdict] at h
      | retry status => simp [fate, hverdict] at hfate

theorem honours_exchange {e : Event} (he : e.isExchange = true) (hcleared : Cleared deadline front)
    (hlanded : ∀ address response, e.reply? = some (address, response) →
      q.Lands c deadline start result (looks front) address response back) :
    q.Honours c deadline start result front e back where
  first answer h := by
    rw [h] at he
    cases he
  allowed _ := hcleared
  raised h := by
    rw [h] at he
    cases he
  lowered h := by
    rw [h] at he
    cases he
  paused time stopped h := by
    rw [h] at he
    cases he
  landed := hlanded

theorem places_quiet {part : List Event} (hpart : ∀ e ∈ part, e.isQuiet = true)
    (hcleared : Cleared deadline front) :
    Places (q.Honours c deadline start result) front part back := by
  intro before e after h
  have hbefore : ∀ x ∈ before, x.isQuiet = true := fun x hx => hpart x (by simp [h, hx])
  have he : e.isQuiet = true := hpart e (by simp [h])
  cases e with
  | now t => exact honours_reading rfl
  | connect address time fault =>
    cases fault with
    | some fault => cases he
    | none =>
      refine honours_exchange rfl (hcleared.append hbefore) ?_
      intro _ _ hreply
      cases hreply
  | _ => cases he

theorem places_flight {nodes : List Node} {flight : List Event} {a : Attempt α}
    (hflight : q.Flight nodes flight a) (hnodes : nodes ⊆ c.nodes)
    (hcleared : Cleared deadline front) (hended : ∀ r, a = .ended r → back = [] ∧ result = r)
    (hfailed : ∀ last, a = .failed last →
      Follows c.settings deadline start result (looks front) last back) :
    Places (q.Honours c deadline start result) front flight back := by
  cases hflight with
  | grounded hpart => exact places_quiet hpart hcleared
  | @landed way benching last node response hway hnode hlast hbenching =>
    have hlooks : looks (front ++ way) = looks front := by simp [looks_of_isQuiet hway]
    have hreadings : ∀ e ∈ benching, e.isReading = true := by
      cases hbenching with
      | benched h t => simp [Event.isReading]
      | spared h => simp
    have hexchange := Event.isExchange_of_reply? hlast
    rw [places_append, places_cons]
    refine ⟨places_quiet hway hcleared, ?_, places_readings hreadings⟩
    apply honours_exchange hexchange (hcleared.append hway)
    intro address response' hreply
    rw [hlast] at hreply
    cases hreply
    refine ⟨node, hnodes hnode, rfl, ?_⟩
    cases hfate : q.fate ⟨node, response⟩ with
    | ended answer =>
      obtain ⟨rfl, rfl⟩ := hended answer hfate
      exact ⟨by simp [benching_of_ended hfate hbenching], rfl⟩
    | failed cause =>
      rw [hlooks]
      exact ⟨benching, back, rfl, hbenching, hfailed cause hfate⟩

/-- An attempt that has begun ends with an exchange, or has nothing to send. -/
theorem proceeds_of_flight {nodes : List Node} {flight : List Event} {a : Attempt α}
    (hflight : q.Flight nodes flight a) (hnodes : nodes ⊆ c.nodes)
    (hended : ∀ r, a = .ended r → back = [] ∧ result = r) :
    q.Proceeds c result (flight ++ back) := by
  cases hflight with
  | @grounded _ node e hpart hnode hbytes =>
    obtain ⟨rfl, rfl⟩ := hended _ rfl
    exact ⟨flight, [], rfl, hpart, .inr ⟨rfl, node, hnodes hnode, e, hbytes, rfl⟩⟩
  | @landed way benching last node response hway hnode hlast hbenching =>
    refine ⟨way, last :: (benching ++ back), by simp, hway, .inl ⟨last, _, rfl, ?_⟩⟩
    rw [hlast]
    rfl

/-! ## From attempt to attempt -/

theorem looks_of_flight {nodes : List Node} {flight : List Event} {a : Attempt α}
    (h : q.Flight nodes flight a) : looks flight = 0 := by
  cases h with
  | grounded hpart => exact looks_of_isQuiet hpart
  | @landed way benching last node response hway hnode hlast hbenching =>
    have hexchange := Event.isExchange_of_reply? hlast
    have hlook : looks [last] = 0 :=
      looks_eq_zero (by simpa using Event.isLook_of_isExchange hexchange)
    rw [← List.singleton_append, looks_append, looks_append, looks_of_isQuiet hway, hlook,
      (lull_of_benching hbenching).looks]

/-- An attempt that failed has looked once. -/
theorem looks_of_failed {nodes : List Node} {tried : List Event} {last : Error}
    (h : q.Tried nodes deadline tried (.failed last)) : looks tried = 1 := by
  cases h with
  | flown hlook hflight => rw [looks_append, (visit_of_look hlook).looks, looks_of_flight hflight]

theorem places_tried {nodes : List Node} {tried : List Event} {a : Attempt α}
    (htried : q.Tried nodes deadline tried a) (hnodes : nodes ⊆ c.nodes)
    (hfirst : looks front = 0 → ∃ opening, front = opening ++ [.now start])
    (hended : ∀ r, a = .ended r → back = [] ∧ result = r)
    (hfailed : ∀ last, a = .failed last →
      Follows c.settings deadline start result (looks front + 1) last back) :
    Places (q.Honours c deadline start result) front tried back := by
  cases htried with
  | stopped hlook =>
    apply places_look hlook hfirst
    · intro e he
      cases he
      exact hended _ rfl
    · intro hnone
      cases hnone
  | @flown look flight a hlook hflight =>
    have hlooks : looks (front ++ look) = looks front + 1 := by
      rw [looks_append, (visit_of_look hlook).looks]
    rw [places_append]
    constructor
    · apply places_look hlook hfirst
      · intro e he
        cases he
      · exact fun _ => proceeds_of_flight hflight hnodes hended
    · apply places_flight hflight hnodes
      · exact ⟨front, look, [], (List.append_nil _).symm, hlook, by simp⟩
      · exact hended
      · rwa [hlooks]

theorem places_failed {nodes : List Node} {tried : List Event} {last : Error}
    (htried : q.Tried nodes deadline tried (.failed last)) (hnodes : nodes ⊆ c.nodes)
    (hfirst : looks front = 0 → ∃ opening, front = opening ++ [.now start])
    (hfollows : Follows c.settings deadline start result (looks front + 1) last back) :
    Places (q.Honours c deadline start result) front tried back := by
  apply places_tried htried hnodes hfirst
  · intro r hr
    cases hr
  · rintro cause hcause
    cases hcause
    exact hfollows

/-- An inquiry that goes on begins with a look. -/
theorem looksNext_of_goes {nodes : List Node} {left turn : Nat} {course : List Event}
    (h : q.Goes c.settings nodes deadline start left turn course result) (back : List Event) :
    LooksNext (course ++ back) := by
  have hlook : ∀ {look : List Event} {found : Option Error}, Look deadline look found →
      ∀ back, LooksNext (look ++ back) := by
    intro look found hlook back
    cases hlook with
    | _ => exact ⟨_, _, rfl⟩
  have htried : ∀ {tried : List Event} {a : Attempt α}, q.Tried nodes deadline tried a →
      ∀ back, LooksNext (tried ++ back) := by
    intro tried a htried back
    cases htried with
    | stopped h => exact hlook h back
    | flown h hflight =>
      rw [List.append_assoc]
      exact hlook h _
  cases h with
  | ended h | spent h => exact htried h back
  | late h | broken h | again h =>
    rw [List.append_assoc]
    exact htried h _

/-- From the attempt with the number `turn + 1` on, behind as many looks as there were attempts. -/
theorem places_goes {nodes : List Node} {left turn : Nat} {course : List Event}
    (h : q.Goes c.settings nodes deadline start left turn course result) (hnodes : nodes ⊆ c.nodes)
    (hleft : left + turn = c.settings.maxAttempts - 1) (hturn : looks front = turn)
    (hfirst : looks front = 0 → ∃ opening, front = opening ++ [.now start]) :
    Places (q.Honours c deadline start result) front course [] := by
  -- Each attempt looks once, so the looks so far tell the number of the attempt and those left.
  induction h generalizing front with
  | ended htried =>
    apply places_tried htried hnodes hfirst
    · rintro r hr
      cases hr
      exact ⟨rfl, rfl⟩
    · intro last hlast
      cases hlast
  | @spent turn tried last htried =>
    apply places_failed htried hnodes hfirst
    rw [Follows, if_pos (by omega), hturn]
    exact ⟨rfl, rfl⟩
  | @late left turn tried last e t htried ht =>
    rw [places_append, places_singleton]
    refine ⟨?_, honours_reading rfl⟩
    apply places_failed htried hnodes hfirst
    rw [Follows, if_neg (by omega), hturn]
    refine ⟨t, [], rfl, ?_⟩
    rw [ht]
    exact ⟨rfl, rfl⟩
  | @broken left turn tried pause last e t htried ht hpause =>
    have hlooks : looks (front ++ tried ++ [.now t]) = turn + 1 := by
      rw [looks_append, looks_append, hturn, looks_of_failed htried, looks_now]
    rw [places_append, places_cons]
    refine ⟨?_, honours_reading rfl, ?_⟩
    · apply places_failed htried hnodes hfirst
      rw [Follows, if_neg (by omega), hturn]
      refine ⟨t, pause, by simp, ?_⟩
      rw [ht]
      exact ⟨pause, some e, [], by simp, hpause⟩
    · rw [← hlooks] at hpause
      apply places_pause hpause
      · intro e' he
        cases he
        exact ⟨rfl, rfl⟩
      · intro hnone
        cases hnone
  | @again left turn tried pause rest last t result htried ht hpause hrest ih =>
    have hlooks : looks (front ++ tried ++ [.now t]) = turn + 1 := by
      rw [looks_append, looks_append, hturn, looks_of_failed htried, looks_now]
    have hnext : looks (front ++ tried ++ [.now t] ++ pause) = turn + 1 := by
      rw [looks_append, hlooks, (lull_of_paused hpause).looks]
    rw [places_append, places_cons, places_append]
    refine ⟨?_, honours_reading rfl, ?_, ?_⟩
    · apply places_failed htried hnodes hfirst
      rw [Follows, if_neg (by omega), hturn]
      refine ⟨t, pause ++ rest, by simp, ?_⟩
      rw [ht]
      exact ⟨pause, none, rest, rfl, hpause⟩
    · rw [← hlooks] at hpause
      apply places_pause hpause
      · intro e he
        cases he
      · exact fun _ => looksNext_of_goes hrest []
    · apply ih (by omega) hnext
      intro hzero
      omega

theorem honours_of_runs {candidates : Except Error (List Node)} {log : List Event}
    (h : q.Runs c candidates deadline log result) :
    ∃ start, Places (q.Honours c deadline start result) [] log [] := by
  cases h with
  | refused hopening h => exact ⟨0, places_readings hopening⟩
  | @put opening course nodes start result hopening hnodes hcourse =>
    have hlooks : looks (opening ++ [.now start]) = 0 := by
      rw [looks_append, looks_of_isReading hopening, looks_now]
    refine ⟨start, ?_⟩
    rw [places_append, places_cons]
    refine ⟨places_readings hopening, honours_reading rfl, ?_⟩
    apply places_goes hcourse hnodes (by omega) hlooks
    intro _
    exact ⟨opening, rfl⟩

/-- An inquiry that never looks has found nobody to ask, or was not let through. -/
theorem error_of_runs {candidates : Except Error (List Node)} {log : List Event}
    (h : q.Runs c candidates deadline log result) (hlooks : looks log = 0) :
    ∃ e, result = .error e ∧ (q.check c = .error e ∨ candidates = .error e) := by
  cases h with
  | @refused opening e hopening h => exact ⟨e, rfl, h⟩
  | @put opening course nodes start result hopening hnodes hcourse =>
    obtain ⟨answer, rest, hnext⟩ := looksNext_of_goes hcourse []
    rw [List.append_nil] at hnext
    simp [hnext, looks, Event.isLook] at hlooks

/-- At every place of its log, an inquiry honours the wish of its caller to stop, and unless it has
nobody to ask it looks for that wish at least once. -/
theorem run_honours (host : Host ω κ) (q : Inquiry α) (deadline : Option Moment)
    (s : Session ω κ) :
    Adds id (q.run host.recorded deadline) (q.run host deadline) s fun log result =>
      (looks log = 0 → ∃ e, result = .error e ∧
        (q.check s.client = .error e ∨ (q.candidates host s).1 = .error e)) ∧
      ∃ start, ∀ before e after, log = before ++ e :: after →
        q.Honours s.client deadline start result before e after := by
  apply (adds_run host s q deadline).mono
  intro log result hruns
  refine ⟨error_of_runs hruns, ?_⟩
  obtain ⟨start, hplaces⟩ := honours_of_runs hruns
  refine ⟨start, fun before e after hlog => ?_⟩
  have hplace := hplaces before e after hlog
  rwa [List.nil_append, List.append_nil] at hplace

end

end Inquiry

end HbarKit
