import HbarKit.Proofs.Network.Attempts

/-!
# Replies

What comes back from nodes decides what an inquiry ends with: all replies but the last one make it
try again. Trouble of the network is then left behind, unless the next request cannot be written or
nothing can be made of an answer that was given for good.
-/
namespace HbarKit

open Run

variable {ω κ α : Type}

/-! ## Replies -/

/-- What came back from nodes, in the order of a log. -/
def replies (log : List Event) : List (String × Except Error Response) := log.filterMap Event.reply?

@[simp] theorem replies_append (log log' : List Event) :
    replies (log ++ log') = replies log ++ replies log' := List.filterMap_append

@[simp] theorem replies_now_cons (t : Moment) (log : List Event) :
    replies (.now t :: log) = replies log := rfl

theorem replies_of_isQuiet {log : List Event} (h : ∀ e ∈ log, e.isQuiet = true) :
    replies log = [] := by
  rw [replies, List.filterMap_eq_nil_iff]
  intro e he
  have hquiet := h e he
  cases e with
  | connect address time fault =>
    cases fault with
    | none => rfl
    | some fault => cases hquiet
  | send time message => cases hquiet
  | _ => rfl

theorem replies_of_isReading {log : List Event} (h : ∀ e ∈ log, e.isReading = true) :
    replies log = [] := by
  rw [replies, List.filterMap_eq_nil_iff]
  intro e he
  have hreading := h e he
  cases e with
  | connect address time fault => cases hreading
  | send time message => cases hreading
  | _ => rfl

/-- Whether a node was turned to. -/
def Dispatched (log : List Event) : Prop := ∃ event ∈ log, event.isExchange = true

theorem dispatched_append {log log' : List Event} :
    Dispatched (log ++ log') ↔ Dispatched log ∨ Dispatched log' := by
  simp [Dispatched, or_and_right, exists_or]

theorem dispatched_of_mem_replies {log : List Event} {reply : String × Except Error Response}
    (h : reply ∈ replies log) : Dispatched log := by
  obtain ⟨event, hevent, hreply⟩ := List.mem_filterMap.mp h
  exact ⟨event, hevent, Event.isExchange_of_reply? hreply⟩

theorem not_dispatched_of_isReading {log : List Event} (h : ∀ e ∈ log, e.isReading = true) :
    ¬ Dispatched log := by
  rintro ⟨event, hevent, hexchange⟩
  have hreading := h event hevent
  cases event with
  | connect address time fault => cases hreading
  | send time message => cases hreading
  | _ => cases hexchange

namespace Inquiry

theorem replies_of_look {deadline : Option Moment} {look : List Event} {found : Option Error}
    (h : Look deadline look found) : replies look = [] := by
  cases h with
  | cancelled | free | late | early => rfl

theorem replies_of_paused {deadline : Option Moment} {time : Duration} {pause : List Event}
    {found : Option Error} (h : Paused deadline time pause found) : replies pause = [] := by
  cases h with
  | free | limited => rfl

/-- What stops an inquiry in a look or in a pause is no trouble of the network. -/
theorem kind_of_look {deadline : Option Moment} {look : List Event} {e : Error}
    (h : Look deadline look (some e)) : e.kind = .exhaustion := by
  cases h with
  | cancelled | late => rfl

theorem kind_of_paused {deadline : Option Moment} {time : Duration} {pause : List Event} {e : Error}
    (h : Paused deadline time pause (some e)) : e.kind = .exhaustion := by
  generalize hfound : some e = found at h
  cases h with
  | free h stopped =>
    cases stopped with
    | true =>
      cases hfound
      rfl
    | false => cases hfound
  | @limited d h t stopped =>
    cases stopped with
    | true =>
      cases hfound
      rfl
    | false =>
      by_cases hcut : d - t ≤ time
      · simp only [Bool.false_eq_true, if_false, if_pos hcut] at hfound
        cases hfound
        rfl
      · simp only [Bool.false_eq_true, if_false, if_neg hcut] at hfound
        cases hfound

/-! ## What replies come to -/

/-- What the replies of nodes come to. An inquiry tries again behind each reply that is not answered
for good. Without one it ends because it was stopped or because no attempts or no time is left, or
because the request for the next node cannot be written. -/
inductive Concludes (q : Inquiry α) (nodes : List Node) :
    List (String × Except Error Response) → Except Error α → Prop
  | exhausted {e : Error} (h : e.kind = .exhaustion) : Concludes q nodes [] (.error e)
  | unwritten {node : Node} {e : Error} (hnode : node ∈ nodes)
      (h : q.bytes node.account = .error e) : Concludes q nodes [] (.error e)
  | answered {node : Node} {response : Except Error Response} {result : Except Error α}
      (hnode : node ∈ nodes) (h : q.fate ⟨node, response⟩ = .ended result) :
      Concludes q nodes [(node.address, response)] result
  | repeated {node : Node} {response : Except Error Response} {last : Error}
      {rest : List (String × Except Error Response)} {result : Except Error α}
      (hnode : node ∈ nodes) (h : q.fate ⟨node, response⟩ = .failed last)
      (hrest : Concludes q nodes rest result) :
      Concludes q nodes ((node.address, response) :: rest) result

variable {q : Inquiry α} {nodes : List Node} {deadline : Option Moment}

/-- An attempt has one reply, which decides about it, or it has none and is the end. -/
theorem replies_of_tried {tried : List Event} {a : Attempt α} (h : q.Tried nodes deadline tried a) :
    (replies tried = [] ∧ ∃ e, a = .ended (.error e) ∧
      (e.kind = .exhaustion ∨ ∃ node ∈ nodes, q.bytes node.account = .error e)) ∨
    ∃ node ∈ nodes, ∃ response, replies tried = [(node.address, response)] ∧
      a = q.fate ⟨node, response⟩ := by
  cases h with
  | stopped hlook => exact .inl ⟨replies_of_look hlook, _, rfl, .inl (kind_of_look hlook)⟩
  | flown hlook hflight =>
    cases hflight with
    | @grounded part node e hpart hnode hbytes =>
      refine .inl ⟨?_, e, rfl, .inr ⟨node, hnode, hbytes⟩⟩
      rw [replies_append, replies_of_look hlook, replies_of_isQuiet hpart, List.append_nil]
    | @landed way benching last node response hway hnode hlast hbenching =>
      refine .inr ⟨node, hnode, response, ?_, rfl⟩
      have hbehind : replies benching = [] := by
        cases hbenching with
        | benched | spared => rfl
      have hreply : replies (last :: benching) = [(node.address, response)] := by
        rw [replies, List.filterMap_cons, hlast]
        exact congrArg _ hbehind
      rw [replies_append, replies_append, replies_of_look hlook, replies_of_isQuiet hway, hreply]
      rfl

/-- The last attempt that is made decides about the inquiry. -/
theorem concludes_of_ended {tried : List Event} {result : Except Error α}
    (h : q.Tried nodes deadline tried (.ended result)) :
    q.Concludes nodes (replies tried) result := by
  obtain ⟨hnone, e, he, hcause⟩ | ⟨node, hnode, response, hone, hfate⟩ := replies_of_tried h
  · cases he
    rw [hnone]
    obtain hkind | ⟨node, hnode, hbytes⟩ := hcause
    · exact .exhausted hkind
    · exact .unwritten hnode hbytes
  · rw [hone]
    exact .answered hnode hfate.symm

/-- Behind an attempt that failed the rest of the inquiry decides. -/
theorem concludes_of_failed {tried rest : List Event} {last : Error} {result : Except Error α}
    (h : q.Tried nodes deadline tried (.failed last))
    (hrest : q.Concludes nodes (replies rest) result) :
    q.Concludes nodes (replies (tried ++ rest)) result := by
  obtain ⟨-, e, he, -⟩ | ⟨node, hnode, response, hone, hfate⟩ := replies_of_tried h
  · cases he
  · rw [replies_append, hone]
    exact .repeated hnode hfate.symm hrest

/-- Attempt after attempt, the replies come to the result. -/
theorem concludes_of_goes {settings : Settings} {start : Moment} {left turn : Nat}
    {log : List Event} {result : Except Error α}
    (h : q.Goes settings nodes deadline start left turn log result) :
    q.Concludes nodes (replies log) result := by
  induction h with
  | ended htried => exact concludes_of_ended htried
  | @spent turn tried last htried =>
    have hend : q.Concludes nodes (replies []) (.error (.attemptsSpent (turn + 1) last)) :=
      .exhausted rfl
    have hspent := concludes_of_failed htried hend
    rwa [List.append_nil] at hspent
  | late htried ht => exact concludes_of_failed htried (.exhausted (kind_of_outOfTime? ht))
  | broken htried ht hpause =>
    apply concludes_of_failed htried
    rw [replies_now_cons, replies_of_paused hpause]
    exact .exhausted (kind_of_paused hpause)
  | again htried ht hpause hrest ih =>
    apply concludes_of_failed htried
    rw [replies_now_cons, replies_append, replies_of_paused hpause]
    exact ih

/-- An answer that a node gave for good ends the inquiry with what is made of it. -/
theorem Concludes.result_of_accepted {rs : List (String × Except Error Response)}
    {result : Except Error α} (h : q.Concludes nodes rs result) {address : String}
    {response : Response} (hmem : (address, .ok response) ∈ rs)
    (haccept : q.verdict response = .accept) :
    ∃ node ∈ nodes, result = q.answer node.account response := by
  induction h with
  | exhausted => cases hmem
  | unwritten => cases hmem
  | @answered node reply result hnode hfate =>
    cases List.mem_singleton.mp hmem
    simp only [fate, haccept] at hfate
    cases hfate
    exact ⟨node, hnode, rfl⟩
  | @repeated node reply last rest result hnode hfate hrest ih =>
    obtain hfirst | hrest := List.mem_cons.mp hmem
    · cases hfirst
      simp only [fate, haccept] at hfate
      cases hfate
    · exact ih hrest

/-- An inquiry ends with trouble of the network if a request cannot be written or nothing can be
made of an answer that was given for good, and for no other reason. -/
theorem Concludes.escape {rs : List (String × Except Error Response)} {e : Error}
    (h : q.Concludes nodes rs (.error e)) (hkind : e.kind = .network) :
    (∃ node ∈ nodes, q.bytes node.account = .error e) ∨
      ∃ node ∈ nodes, ∃ response, (node.address, .ok response) ∈ rs ∧
        q.verdict response = .accept ∧ q.answer node.account response = .error e := by
  generalize hresult : (.error e : Except Error α) = result at h
  induction h with
  | exhausted h =>
    cases hresult
    rw [h] at hkind
    cases hkind
  | unwritten hnode h =>
    cases hresult
    exact .inl ⟨_, hnode, h⟩
  | @answered node reply result hnode hfate =>
    subst hresult
    cases reply with
    | error fault => cases hfate
    | ok response =>
      cases hverdict : q.verdict response with
      | accept =>
        simp only [fate, hverdict, Attempt.ended.injEq] at hfate
        exact .inr ⟨node, hnode, response, List.mem_singleton.mpr rfl, hverdict, hfate⟩
      | reject status =>
        simp only [fate, hverdict, Attempt.ended.injEq] at hfate
        cases hfate
        cases hkind
      | retry status =>
        simp only [fate, hverdict] at hfate
        cases hfate
  | repeated hnode hfate hrest ih =>
    obtain hbytes | ⟨node, hnode, response, hmem, hanswer⟩ := ih hresult
    · exact .inl hbytes
    · exact .inr ⟨node, hnode, response, List.mem_cons_of_mem _ hmem, hanswer⟩

/-! ## Inquiries that reached a node -/

/-- An inquiry that reached a node ends with what its replies come to. -/
theorem concludes_of_runs {c : Client κ} {candidates : Except Error (List Node)} {log : List Event}
    {result : Except Error α} (h : q.Runs c candidates deadline log result)
    (hdispatched : Dispatched log) : ∃ nodes, q.Concludes nodes (replies log) result := by
  cases h with
  | refused hopening => exact absurd hdispatched (not_dispatched_of_isReading hopening)
  | put hopening hnodes hcourse =>
    rw [replies_append, replies_of_isReading hopening, List.nil_append, replies_now_cons]
    exact ⟨_, concludes_of_goes hcourse⟩

/-- A node that was asked was sent a request. -/
theorem bytes_of_ask {host : Host ω κ} {settings : Settings} {start : Moment} {turn : Nat}
    {s : Session ω κ} {reply : Reply}
    (h : (q.ask host settings nodes deadline start turn s).1 = .ok reply) :
    ∃ b, q.bytes reply.node.account = .ok b := by
  simp only [ask, bind_apply] at h
  cases hstop : (stop? host deadline s).1 with
  | some e =>
    rw [hstop] at h
    cases h
  | none =>
    simp only [hstop, bind_apply] at h
    cases hpick : (pick host nodes turn (stop? host deadline s).2).1 with
    | none =>
      rw [hpick] at h
      cases h
    | some node =>
      simp only [hpick] at h
      cases hbytes : q.bytes node.account with
      | error e =>
        rw [hbytes] at h
        cases h
      | ok b =>
        rw [hbytes] at h
        cases h
        exact ⟨b, hbytes⟩

/-- An inquiry that reached a node had a request for one. -/
theorem adds_run_dispatched (q : Inquiry α) (host : Host ω κ) (deadline : Option Moment)
    (s : Session ω κ) :
    Adds id (q.run host.recorded deadline) (q.run host deadline) s
      fun log _ => Dispatched log → ∃ account b, q.bytes account = .ok b := by
  apply (adds_run_reaches host q deadline s).mono
  rintro log - hreaches ⟨event, hevent, hexchange⟩
  obtain ⟨address, haddress⟩ := (Event.exists_address_iff event).mpr hexchange
  obtain ⟨before, after, rfl⟩ := List.append_of_mem hevent
  obtain ⟨p, turn, hp, -, s', node, -, hcontact, -⟩ :=
    (hreaches _ address).mp ⟨before, event, after, rfl, rfl, haddress⟩
  obtain rfl : p.inquiry = q := by
    unfold pursuit? at hp
    split at hp
    · cases hp
      rfl
    · cases hp
  cases hask : (p.inquiry.ask p.host p.settings p.nodes p.deadline p.start turn s').1 with
  | error e =>
    rw [Pursuit.contact?, hask] at hcontact
    cases hcontact
  | ok reply => exact ⟨_, bytes_of_ask hask⟩

end Inquiry

end HbarKit
