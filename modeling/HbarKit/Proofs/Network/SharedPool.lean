import HbarKit.Network.Pool
import Mathlib.Data.List.Nodup
import Mathlib.Logic.Function.Basic
import Mathlib.Tactic

/-!
# Shared pools

Any number of callers share a pool. A call for the channel of an address is a look at the pool and,
if there is none, a connection outside of it and then the entry of the new channel, behind which the
caller is given the channel of the address. What other callers do can come between these steps.

A channel that was opened is held by the caller who opened it until it is entered, and from then on
it is in the pool or nowhere. So a channel that was given and evicted is gone for good.
-/
namespace HbarKit

/-- Where a caller is in a call. -/
inductive Phase (κ : Type) where
  /-- In no call. -/
  | idle
  /-- No channel was there, and one is being opened. -/
  | connecting (address : String)
  /-- A channel was opened and is to be entered. -/
  | holding (address : String) (channel : κ)

/-- A step of a caller. -/
inductive PoolEvent (ι κ : Type) where
  /-- A channel is there and is given. -/
  | found (caller : ι) (address : String) (channel : κ)
  /-- No channel is there. -/
  | missed (caller : ι) (address : String)
  /-- A channel is opened. -/
  | opened (caller : ι) (address : String) (channel : κ)
  /-- The connection fails, and so does the call. -/
  | refused (caller : ι) (address : String)
  /-- A channel is entered, and that of the address is given. -/
  | entered (caller : ι) (address : String) (channel : κ)
  /-- The channel of an address is removed. -/
  | evicted (caller : ι) (address : String)

namespace PoolEvent

variable {ι κ : Type}

/-- The channel that a call is given in its last step, with the address it was made for. -/
def given? : PoolEvent ι κ → Option (String × κ)
  | found _ address channel | entered _ address channel => some (address, channel)
  | _ => none

/-- The address of which the channel is removed. -/
def evicted? : PoolEvent ι κ → Option String
  | evicted _ address => some address
  | _ => none

theorem evicted?_of_given {e : PoolEvent ι κ} {x : String × κ} (h : e.given? = some x) :
    e.evicted? = none := by
  cases e with
  | evicted caller address => cases h
  | _ => rfl

end PoolEvent

/-- A pool with its callers, and all channels that they have opened so far. -/
structure Traffic (ι κ : Type) where
  pool : Pool κ
  phase : ι → Phase κ
  opened : List (String × κ)

namespace Traffic

variable {ι κ : Type} [DecidableEq ι]

/-- An empty pool before the first call. -/
def start (connectTime : Duration) : Traffic ι κ := ⟨.empty connectTime, fun _ => .idle, []⟩

/-- The traffic with a caller somewhere else. -/
def move (t : Traffic ι κ) (i : ι) (phase : Phase κ) : Traffic ι κ :=
  { t with phase := Function.update t.phase i phase }

/-- What one step of one caller does. Every connection opens a channel of its own. -/
inductive Step : Traffic ι κ → PoolEvent ι κ → Traffic ι κ → Prop
  | found {t : Traffic ι κ} {i : ι} {a : String} {c : κ} (hphase : t.phase i = .idle)
      (h : t.pool.find? a = some c) : Step t (.found i a c) t
  | missed {t : Traffic ι κ} {i : ι} {a : String} (hphase : t.phase i = .idle)
      (h : t.pool.find? a = none) : Step t (.missed i a) (t.move i (.connecting a))
  | opened {t : Traffic ι κ} {i : ι} {a : String} {c : κ} (hphase : t.phase i = .connecting a)
      (hfresh : c ∉ t.opened.map Prod.snd) :
      Step t (.opened i a c) { t.move i (.holding a c) with opened := (a, c) :: t.opened }
  | refused {t : Traffic ι κ} {i : ι} {a : String} (hphase : t.phase i = .connecting a) :
      Step t (.refused i a) (t.move i .idle)
  | entered {t : Traffic ι κ} {i : ι} {a : String} {c : κ} (hphase : t.phase i = .holding a c) :
      Step t (.entered i a (t.pool.enter a c).1)
        { t.move i .idle with pool := (t.pool.enter a c).2 }
  | evicted {t : Traffic ι κ} (i : ι) (a : String) :
      Step t (.evicted i a) { t with pool := t.pool.evict a }

/-- A row of steps of any callers in any order. -/
inductive Path : Traffic ι κ → List (PoolEvent ι κ) → Traffic ι κ → Prop
  | nil (t : Traffic ι κ) : Path t [] t
  | cons {t t' t'' : Traffic ι κ} {e : PoolEvent ι κ} {es : List (PoolEvent ι κ)}
      (h : Step t e t') (hrest : Path t' es t'') : Path t (e :: es) t''

theorem path_append {t u : Traffic ι κ} {es es' : List (PoolEvent ι κ)} :
    Path t (es ++ es') u ↔ ∃ t', Path t es t' ∧ Path t' es' u := by
  constructor
  · intro h
    induction es generalizing t with
    | nil => exact ⟨t, .nil t, h⟩
    | cons e es ih =>
      cases h with
      | cons hstep hrest =>
        obtain ⟨t', hes, hes'⟩ := ih hrest
        exact ⟨t', .cons hstep hes, hes'⟩
  · rintro ⟨t', hes, hes'⟩
    induction hes with
    | nil => exact hes'
    | cons hstep _ ih => exact .cons hstep (ih hes')

theorem path_cons {t u : Traffic ι κ} {e : PoolEvent ι κ} {es : List (PoolEvent ι κ)} :
    Path t (e :: es) u ↔ ∃ t', Step t e t' ∧ Path t' es u := by
  constructor
  · rintro (_ | ⟨hstep, hrest⟩)
    exact ⟨_, hstep, hrest⟩
  · rintro ⟨t', hstep, hrest⟩
    exact .cons hstep hrest

end Traffic

/-! ## Pools -/

namespace Pool

variable {κ : Type} {p : Pool κ} {a b : String} {c d : κ}

theorem mem_of_find? (h : p.find? a = some c) : (a, c) ∈ p.channels := by
  obtain ⟨⟨b, d⟩, hfind, rfl⟩ := Option.map_eq_some_iff.mp h
  have haddress : b = a := by simpa using List.find?_some hfind
  exact haddress ▸ List.mem_of_find?_eq_some hfind

theorem not_mem_of_find?_eq_none (h : p.find? a = none) : a ∉ p.channels.map Prod.fst := by
  intro hmem
  obtain ⟨⟨b, c⟩, hc, rfl⟩ := List.mem_map.mp hmem
  have hnone := List.find?_eq_none.mp (Option.map_eq_none_iff.mp h) _ hc
  simp at hnone

/-- What is given is there. -/
theorem find?_enter (p : Pool κ) (a : String) (c : κ) :
    (p.enter a c).2.find? a = some (p.enter a c).1 := by
  unfold enter
  cases hfind : p.find? a with
  | some present => exact hfind
  | none =>
    have hnone : (p.channels.find? fun c => c.1 = a) = none := Option.map_eq_none_iff.mp hfind
    simp [find?, List.find?_append, hnone]

/-- An entry leaves the channels that are there. -/
theorem find?_enter_of_some (h : p.find? a = some c) : (p.enter b d).2.find? a = some c := by
  unfold enter
  cases hfind : p.find? b with
  | some present => exact h
  | none =>
    obtain ⟨e, he, hc⟩ := Option.map_eq_some_iff.mp h
    simp [find?, List.find?_append, he, hc]

/-- Only the new channel may be added. -/
theorem mem_enter {x : String × κ} (h : x ∈ (p.enter a c).2.channels) :
    x ∈ p.channels ∨ x = (a, c) := by
  unfold enter at h
  cases hfind : p.find? a with
  | some present =>
    rw [hfind] at h
    exact .inl h
  | none =>
    rw [hfind] at h
    simpa using h

theorem nodup_enter (h : (p.channels.map Prod.fst).Nodup) :
    ((p.enter a c).2.channels.map Prod.fst).Nodup := by
  unfold enter
  cases hfind : p.find? a with
  | some present => exact h
  | none =>
    rw [List.map_append, List.nodup_append]
    refine ⟨h, by simp, ?_⟩
    rintro b hb _ ha rfl
    obtain rfl : b = a := by simpa using ha
    exact not_mem_of_find?_eq_none hfind hb

/-- An eviction leaves the channels of other addresses. -/
theorem find?_evict_of_ne (h : p.find? a = some c) (hne : b ≠ a) :
    (p.evict b).find? a = some c := by
  rw [← h, find?, find?, evict, List.find?_filter]
  congr 2
  funext x
  by_cases hx : x.1 = a
  · simp [hx, hne.symm]
  · simp [hx]

theorem mem_evict {x : String × κ} : x ∈ (p.evict a).channels ↔ x ∈ p.channels ∧ x.1 ≠ a := by
  simp [evict]

end Pool

namespace Traffic

variable {ι κ : Type} [DecidableEq ι]

@[simp] theorem phase_move_self (t : Traffic ι κ) (i : ι) (phase : Phase κ) :
    (t.move i phase).phase i = phase := Function.update_self ..

theorem phase_move_of_ne (t : Traffic ι κ) {i j : ι} (hne : j ≠ i) (phase : Phase κ) :
    (t.move i phase).phase j = t.phase j := Function.update_of_ne hne ..

/-! ## Where channels are -/

/-- A caller holds a channel that is still to be entered. -/
def Holds (t : Traffic ι κ) (i : ι) (a : String) (c : κ) : Prop := t.phase i = .holding a c

/-- A channel is in the pool for some address. -/
def Pooled (t : Traffic ι κ) (c : κ) : Prop := ∃ a, (a, c) ∈ t.pool.channels

/-- All that keeps a channel at one place at a time. -/
structure Sound (t : Traffic ι κ) : Prop where
  /-- The pool has one channel for an address at most. -/
  keys : (t.pool.channels.map Prod.fst).Nodup
  /-- No channel was opened twice. -/
  fresh : (t.opened.map Prod.snd).Nodup
  /-- Channels in the pool were opened for the address they are there for. -/
  pooled : ∀ x ∈ t.pool.channels, x ∈ t.opened
  /-- So were those that callers hold. -/
  held : ∀ i a c, t.Holds i a c → (a, c) ∈ t.opened
  /-- A channel that is held is not in the pool. -/
  apart : ∀ i a c, t.Holds i a c → ¬ t.Pooled c
  /-- No two callers hold one channel. -/
  single : ∀ i j a b c, t.Holds i a c → t.Holds j b c → i = j

omit [DecidableEq ι] in
theorem sound_start (connectTime : Duration) : (start connectTime : Traffic ι κ).Sound := by
  constructor
  case keys => exact List.nodup_nil
  case fresh => exact List.nodup_nil
  case pooled => simp [start, Pool.empty]
  case held => simp [start, Holds]
  case apart => simp [start, Holds]
  case single => simp [start, Holds]

section

variable {t t' u : Traffic ι κ} {e : PoolEvent ι κ} {es : List (PoolEvent ι κ)}

/-- After a move, a caller holds what it moved to, and others hold what they held. -/
theorem holds_move {i j : ι} {a : String} {c : κ} {phase : Phase κ} :
    (t.move i phase).Holds j a c ↔
      (j = i ∧ phase = .holding a c) ∨ (j ≠ i ∧ t.Holds j a c) := by
  by_cases hj : j = i
  · subst hj
    simp [Holds]
  · simp [Holds, phase_move_of_ne t hj, hj]

/-- Who moves without a channel takes none. -/
theorem Sound.move (h : t.Sound) (i : ι) {phase : Phase κ}
    (hphase : ∀ a c, phase ≠ .holding a c) : (t.move i phase).Sound := by
  have hold : ∀ {j a c}, (t.move i phase).Holds j a c → t.Holds j a c := by
    intro j a c hj
    obtain ⟨-, hc⟩ | ⟨-, hj⟩ := holds_move.mp hj
    · exact absurd hc (hphase a c)
    · exact hj
  constructor
  case keys => exact h.keys
  case fresh => exact h.fresh
  case pooled => exact h.pooled
  case held => exact fun j a c hj => h.held j a c (hold hj)
  case apart => exact fun j a c hj => h.apart j a c (hold hj)
  case single => exact fun j k a b c hj hk => h.single j k a b c (hold hj) (hold hk)

/-- One step keeps every channel at one place. -/
theorem Step.sound (hstep : Step t e t') (h : t.Sound) : t'.Sound := by
  cases hstep with
  | found hphase hfind => exact h
  | @missed i a hphase hfind => exact h.move i (by simp)
  | @opened i a c hphase hfresh =>
    have hunheld : ∀ {j b}, ¬ t.Holds j b c := fun hj =>
      hfresh (List.mem_map_of_mem (h.held _ _ _ hj))
    constructor
    case keys => exact h.keys
    case fresh => exact List.nodup_cons.mpr ⟨hfresh, h.fresh⟩
    case pooled => exact fun x hx => List.mem_cons_of_mem _ (h.pooled x hx)
    case held =>
      intro j b d hj
      obtain ⟨-, hd⟩ | ⟨-, hj⟩ := holds_move.mp hj
      · cases hd
        exact List.mem_cons_self
      · exact List.mem_cons_of_mem _ (h.held j b d hj)
    case apart =>
      intro j b d hj
      obtain ⟨-, hd⟩ | ⟨-, hj⟩ := holds_move.mp hj
      · cases hd
        rintro ⟨b, hb⟩
        exact hfresh (List.mem_map_of_mem (h.pooled _ hb))
      · exact h.apart j b d hj
    case single =>
      intro j k b b' d hj hk
      obtain ⟨rfl, hd⟩ | ⟨-, hj⟩ := holds_move.mp hj
      · cases hd
        obtain ⟨rfl, -⟩ | ⟨-, hk⟩ := holds_move.mp hk
        · rfl
        · exact absurd hk hunheld
      · obtain ⟨-, hd⟩ | ⟨-, hk⟩ := holds_move.mp hk
        · cases hd
          exact absurd hj hunheld
        · exact h.single j k b b' d hj hk
  | @refused i a hphase => exact h.move i (by simp)
  | @entered i a c hphase =>
    have hidle : (t.move i .idle).Sound := h.move i (by simp)
    constructor
    case keys => exact Pool.nodup_enter h.keys
    case fresh => exact h.fresh
    case pooled =>
      intro x hx
      obtain hx | rfl := Pool.mem_enter hx
      · exact h.pooled x hx
      · exact h.held i a c hphase
    case held => exact hidle.held
    case apart =>
      rintro j b d hj ⟨b', hb'⟩
      obtain hb' | hb' := Pool.mem_enter hb'
      · exact hidle.apart j b d hj ⟨b', hb'⟩
      · cases hb'
        obtain ⟨-, hc⟩ | ⟨hne, hj⟩ := holds_move.mp hj
        · cases hc
        · exact hne (h.single j i b a c hj hphase)
    case single => exact hidle.single
  | evicted i a =>
    constructor
    case keys => exact h.keys.sublist (List.filter_sublist.map Prod.fst)
    case fresh => exact h.fresh
    case pooled => exact fun x hx => h.pooled x (Pool.mem_evict.mp hx).1
    case held => exact h.held
    case apart =>
      rintro j b d hj ⟨b', hb'⟩
      exact h.apart j b d hj ⟨b', (Pool.mem_evict.mp hb').1⟩
    case single => exact h.single

theorem Path.sound (hpath : Path t es u) (h : t.Sound) : u.Sound := by
  induction hpath with
  | nil => exact h
  | cons hstep _ ih => exact ih (hstep.sound h)

/-! ## Channels that were given -/

/-- A channel is in the pool when it is given. -/
theorem Step.find?_of_given (hstep : Step t e t') {a : String} {c : κ}
    (hgiven : e.given? = some (a, c)) : t'.pool.find? a = some c := by
  cases hstep with
  | found hphase hfind =>
    cases hgiven
    exact hfind
  | entered hphase =>
    cases hgiven
    exact Pool.find?_enter ..
  | _ => cases hgiven

theorem Step.opened_of_given (hstep : Step t e t') {x : String × κ} (hgiven : e.given? = some x) :
    t'.opened = t.opened := by
  cases hstep with
  | opened hphase hfresh => cases hgiven
  | _ => rfl

/-- It stays there as long as it is not evicted. -/
theorem Step.find? (hstep : Step t e t') {a : String} {c : κ} (hfind : t.pool.find? a = some c)
    (hkept : e.evicted? ≠ some a) : t'.pool.find? a = some c := by
  cases hstep with
  | entered hphase => exact Pool.find?_enter_of_some hfind
  | evicted i b =>
    apply Pool.find?_evict_of_ne hfind
    rintro rfl
    exact hkept rfl
  | _ => exact hfind

theorem Path.find? (hpath : Path t es u) {a : String} {c : κ} (hfind : t.pool.find? a = some c)
    (hkept : ∀ e ∈ es, e.evicted? ≠ some a) : u.pool.find? a = some c := by
  induction hpath with
  | nil => exact hfind
  | cons hstep _ ih =>
    obtain ⟨he, hes⟩ := List.forall_mem_cons.mp hkept
    exact ih (hstep.find? hfind he) hes

/-- A channel was opened for an address, and no caller holds it any more. -/
structure Settled (t : Traffic ι κ) (a : String) (c : κ) : Prop where
  opened : (a, c) ∈ t.opened
  unheld : ∀ i b, ¬ t.Holds i b c

omit [DecidableEq ι] in
theorem Sound.settled (h : t.Sound) {a : String} {c : κ} (hfind : t.pool.find? a = some c) :
    t.Settled a c := by
  have hmem := Pool.mem_of_find? hfind
  exact ⟨h.pooled _ hmem, fun i b hholds => h.apart i b c hholds ⟨a, hmem⟩⟩

/-- No caller comes to hold it again. -/
theorem Step.settled (hstep : Step t e t') {a : String} {c : κ} (h : t.Settled a c) :
    t'.Settled a c := by
  have hmove : ∀ (i : ι) {phase : Phase κ}, (∀ b, phase ≠ .holding b c) →
      ∀ j b, ¬ (t.move i phase).Holds j b c := by
    intro i phase hphase j b hj
    obtain ⟨-, hc⟩ | ⟨-, hj⟩ := holds_move.mp hj
    · exact hphase b hc
    · exact h.unheld j b hj
  cases hstep with
  | found hphase hfind => exact h
  | @missed i _ hphase hfind => exact ⟨h.opened, hmove i (by simp)⟩
  | @opened i b d hphase hfresh =>
    refine ⟨List.mem_cons_of_mem _ h.opened, hmove i fun b' hd => ?_⟩
    cases hd
    exact hfresh (List.mem_map_of_mem h.opened)
  | @refused i _ hphase => exact ⟨h.opened, hmove i (by simp)⟩
  | @entered i _ _ hphase => exact ⟨h.opened, hmove i (by simp)⟩
  | evicted i b => exact ⟨h.opened, h.unheld⟩

/-- If it is not in the pool, it never is again. -/
theorem Step.unpooled (hstep : Step t e t') {a : String} {c : κ} (h : t.Settled a c)
    (hout : ¬ t.Pooled c) : ¬ t'.Pooled c := by
  cases hstep with
  | @entered i b d hphase =>
    rintro ⟨b', hb'⟩
    obtain hb' | hb' := Pool.mem_enter hb'
    · exact hout ⟨b', hb'⟩
    · cases hb'
      exact h.unheld i b hphase
  | evicted i b =>
    rintro ⟨b', hb'⟩
    exact hout ⟨b', (Pool.mem_evict.mp hb').1⟩
  | _ => exact hout

theorem Path.settled (hpath : Path t es u) {a : String} {c : κ} (h : t.Settled a c) :
    u.Settled a c := by
  induction hpath with
  | nil => exact h
  | cons hstep _ ih => exact ih (hstep.settled h)

theorem Path.unpooled (hpath : Path t es u) {a : String} {c : κ} (h : t.Settled a c)
    (hout : ¬ t.Pooled c) : ¬ u.Pooled c := by
  induction hpath with
  | nil => exact hout
  | cons hstep _ ih => exact ih (hstep.settled h) (hstep.unpooled h hout)

/-- The eviction of its address takes it out of the pool. -/
theorem Step.unpooled_of_evicted (hstep : Step t e t') (hsound : t.Sound) {a : String} {c : κ}
    (h : t.Settled a c) (he : e.evicted? = some a) : ¬ t'.Pooled c := by
  cases hstep with
  | evicted i b =>
    cases he
    rintro ⟨b, hb⟩
    obtain ⟨hb, hne⟩ := Pool.mem_evict.mp hb
    have hsame := List.inj_on_of_nodup_map hsound.fresh (hsound.pooled _ hb) h.opened rfl
    exact hne (congrArg Prod.fst hsame)
  | _ => cases he

/-- What is opened on the way are the channels of the steps that open one. -/
theorem Path.mem_opened (hpath : Path t es u) {a : String} {c : κ} (h : (a, c) ∈ u.opened) :
    (a, c) ∈ t.opened ∨ ∃ i, .opened i a c ∈ es := by
  induction hpath with
  | nil => exact .inl h
  | @cons t _ _ e es hstep _ ih =>
    obtain h | ⟨i, hi⟩ := ih h
    · cases hstep with
      | @opened i b d hphase hfresh =>
        obtain h | h := List.mem_cons.mp h
        · cases h
          exact .inr ⟨i, List.mem_cons_self⟩
        · exact .inl h
      | _ => exact .inl h
    · exact .inr ⟨i, List.mem_cons_of_mem _ hi⟩

end

/-! ## Calls with nobody in between -/

/-- The steps of a call of one caller when a connection gives `opened`, and what the call gives. -/
inductive Call {ε : Type} (i : ι) (a : String) (opened : Except ε κ) :
    List (PoolEvent ι κ) → Except ε κ → Prop
  | found (c : κ) : Call i a opened [.found i a c] (.ok c)
  | refused {e : ε} (h : opened = .error e) :
      Call i a opened [.missed i a, .refused i a] (.error e)
  | entered {c : κ} (h : opened = .ok c) (c' : κ) :
      Call i a opened [.missed i a, .opened i a c, .entered i a c'] (.ok c')

/-- With nobody in between, the steps of a call do what a look at the pool, a connection and an
entry do in a row. -/
theorem get_of_path {ε : Type} {t t' : Traffic ι κ} {i : ι} {a : String} {opened : Except ε κ}
    {es : List (PoolEvent ι κ)} {result : Except ε κ} (hcall : Call i a opened es result)
    (hpath : Path t es t') :
    Id.run (t.pool.get a fun _ => pure opened) = (result, t'.pool) := by
  unfold Pool.get
  cases hcall with
  | found c =>
    obtain ⟨t₁, hfound, hnil⟩ := path_cons.mp hpath
    cases hnil
    cases hfound with
    | found hphase hfind =>
      rw [hfind]
      rfl
  | @refused e h =>
    obtain ⟨t₁, hmissed, hpath⟩ := path_cons.mp hpath
    obtain ⟨t₂, hrefused, hnil⟩ := path_cons.mp hpath
    cases hnil
    cases hmissed with
    | missed hphase hfind =>
      cases hrefused
      rw [hfind, h]
      rfl
  | @entered c h c' =>
    obtain ⟨t₁, hmissed, hpath⟩ := path_cons.mp hpath
    obtain ⟨t₂, hopened, hpath⟩ := path_cons.mp hpath
    obtain ⟨t₃, hentered, hnil⟩ := path_cons.mp hpath
    cases hnil
    cases hmissed with
    | missed hphase hfind =>
      cases hopened
      generalize hgiven : PoolEvent.entered i a c' = e at hentered
      cases hentered with
      | @entered j b d hphase' =>
        cases hgiven
        -- The caller holds what it has opened.
        cases (phase_move_self _ i (.holding a c)).symm.trans hphase'
        rw [hfind, h]
        rfl
      | _ => cases hgiven

/-! ## What callers can rely on -/

/-- What holds of the steps that led to a traffic, whoever made them and in which order. -/
structure Safe (es : List (PoolEvent ι κ)) (t : Traffic ι κ) : Prop where
  /-- A channel that is given was opened for the address before. -/
  own : ∀ before e after a c, es = before ++ e :: after → e.given? = some (a, c) →
    ∃ i, .opened i a c ∈ before
  /-- The pool has one channel for an address at most. -/
  one : (t.pool.channels.map Prod.fst).Nodup
  /-- Calls for an address that end with no eviction of it in between are given one channel. -/
  same : ∀ before e between e' after a c c', es = before ++ e :: (between ++ e' :: after) →
    e.given? = some (a, c) → e'.given? = some (a, c') →
    (∀ x ∈ between, x.evicted? ≠ some a) → c' = c
  /-- A connection that fails leaves the pool as it is. -/
  refused : ∀ i a t', Step t (.refused i a) t' → t'.pool = t.pool
  /-- A channel that was given and of which the address was evicted then is never given again. -/
  gone : ∀ before e between x later e' after a a' c,
    es = before ++ e :: (between ++ x :: (later ++ e' :: after)) → e.given? = some (a, c) →
    x.evicted? = some a → e'.given? ≠ some (a', c)

theorem safe_of_path {connectTime : Duration} {es : List (PoolEvent ι κ)} {t : Traffic ι κ}
    (h : Path (start connectTime) es t) : Safe es t := by
  constructor
  case own =>
    rintro before e after a c rfl hgiven
    obtain ⟨t₁, hbefore, hafter⟩ := path_append.mp h
    obtain ⟨t₂, hstep, -⟩ := path_cons.mp hafter
    have hsound := hstep.sound (hbefore.sound (sound_start connectTime))
    have hmem := (hsound.settled (hstep.find?_of_given hgiven)).opened
    rw [hstep.opened_of_given hgiven] at hmem
    obtain hstart | hopened := hbefore.mem_opened hmem
    · cases hstart
    · exact hopened
  case one => exact (h.sound (sound_start connectTime)).keys
  case same =>
    rintro before e between e' after a c c' rfl hgiven hgiven' hkept
    obtain ⟨t₁, -, h⟩ := path_append.mp h
    obtain ⟨t₂, hstep, h⟩ := path_cons.mp h
    obtain ⟨t₃, hbetween, h⟩ := path_append.mp h
    obtain ⟨t₄, hstep', -⟩ := path_cons.mp h
    have hfind := hbetween.find? (hstep.find?_of_given hgiven) hkept
    have hnone := PoolEvent.evicted?_of_given hgiven'
    have hfind' := hstep'.find? hfind (by simp [hnone])
    rw [hstep'.find?_of_given hgiven'] at hfind'
    exact Option.some.inj hfind'
  case refused =>
    intro i a t' hstep
    cases hstep
    rfl
  case gone =>
    rintro before e between x later e' after a a' c rfl hgiven hevicted hgiven'
    obtain ⟨t₁, hbefore, h⟩ := path_append.mp h
    obtain ⟨t₂, hstep, h⟩ := path_cons.mp h
    obtain ⟨t₃, hbetween, h⟩ := path_append.mp h
    obtain ⟨t₄, heviction, h⟩ := path_cons.mp h
    obtain ⟨t₅, hlater, h⟩ := path_append.mp h
    obtain ⟨t₆, hstep', -⟩ := path_cons.mp h
    have hsound := hstep.sound (hbefore.sound (sound_start connectTime))
    have hsettled := hbetween.settled (hsound.settled (hstep.find?_of_given hgiven))
    have hout := heviction.unpooled_of_evicted (hbetween.sound hsound) hsettled hevicted
    have hsettled' := heviction.settled hsettled
    have hend := hstep'.unpooled (hlater.settled hsettled') (hlater.unpooled hsettled' hout)
    exact hend ⟨a', Pool.mem_of_find? (hstep'.find?_of_given hgiven')⟩

/-! ## A race -/

/-- Two callers miss a channel at a time and both open one. Both are given the one that is entered
first; when that is evicted, another one is opened. -/
def race : List (PoolEvent Bool Nat) :=
  [.missed false "a:50211", .missed true "a:50211", .opened true "a:50211" 1,
    .opened false "a:50211" 2, .entered true "a:50211" 1, .entered false "a:50211" 1,
    .evicted false "a:50211", .missed true "a:50211", .opened true "a:50211" 3,
    .entered true "a:50211" 3]

theorem safe_of_path_race : ∃ t : Traffic Bool Nat, Path (start 0) race t ∧ Safe race t := by
  have hpath : ∃ t : Traffic Bool Nat, Path (start 0) race t := by
    refine ⟨_, .cons (.missed rfl rfl) <| .cons (.missed rfl rfl) <| .cons (.opened rfl ?_) <|
      .cons (.opened rfl ?_) <| .cons (.entered rfl) <| .cons (.entered rfl) <|
      .cons (.evicted _ _) <| .cons (.missed rfl rfl) <| .cons (.opened rfl ?_) <|
      .cons (.entered rfl) (.nil _)⟩
    all_goals decide
  obtain ⟨t, ht⟩ := hpath
  exact ⟨t, ht, safe_of_path ht⟩

end Traffic

end HbarKit
