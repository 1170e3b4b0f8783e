import HbarKit.Network.Configuration
import HbarKit.Proofs.Exact
import HbarKit.Proofs.Except
import HbarKit.Proofs.Network.Frames
import HbarKit.Proofs.Network.Health

/-!
# Pauses between attempts

However a client has come to its settings, it makes an attempt at least, prepares transactions for a
node at least, and has bounds for its pauses that are in order: what is read from a configuration is
refused if they are not, and what is set later is put in order. So the pauses stay between the
bounds, and they never get shorter. They double up to the upper bound, unless the lower one is so
small that the largest factor does not take it there. A machine computes the same pauses in words,
whatever the number of the attempt is.
-/
namespace HbarKit

namespace Settings

/-! ## Pauses -/

theorem backoffFactor_of_le {attempt : Nat} (h : attempt ≤ 32) :
    backoffFactor attempt = 2 ^ (attempt - 1) := if_pos (by omega)

theorem backoffFactor_of_lt {attempt : Nat} (h : 32 < attempt) :
    backoffFactor attempt = 2 ^ 32 - 1 := if_neg (by omega)

theorem backoffFactor_pos (attempt : Nat) : 1 ≤ backoffFactor attempt := by
  obtain h | h := le_or_gt attempt 32
  · rw [backoffFactor_of_le h]
    exact Nat.one_le_two_pow
  · rw [backoffFactor_of_lt h]
    decide

theorem backoffFactor_le (attempt : Nat) : backoffFactor attempt ≤ 2 ^ 32 - 1 := by
  obtain h | h := le_or_gt attempt 32
  · rw [backoffFactor_of_le h]
    have hpow : 2 ^ (attempt - 1) < 2 ^ 32 := Nat.pow_lt_pow_right (by decide) (by omega)
    omega
  · rw [backoffFactor_of_lt h]

/-- The factor does not shrink, not even where the powers of two no longer fit. -/
theorem backoffFactor_mono {a b : Nat} (h : a ≤ b) : backoffFactor a ≤ backoffFactor b := by
  obtain hb | hb := le_or_gt b 32
  · rw [backoffFactor_of_le hb, backoffFactor_of_le (h.trans hb)]
    exact Nat.pow_le_pow_right (by decide) (by omega)
  · rw [backoffFactor_of_lt hb]
    exact backoffFactor_le a

variable {s : Settings}

theorem backoff_mono {a b : Nat} (h : a ≤ b) : s.backoff a ≤ s.backoff b :=
  min_le_min_right _ (Nat.mul_le_mul_left _ (backoffFactor_mono h))

theorem backoff_le_maxBackoff (attempt : Nat) : s.backoff attempt ≤ s.maxBackoff :=
  Nat.min_le_right _ _

/-- The pauses double while the factor fits, and where it does not they are at the upper bound if
the largest factor takes them there. -/
theorem backoff_eq {attempt : Nat}
    (h : attempt ≤ 32 ∨ s.maxBackoff ≤ s.minBackoff * (2 ^ 32 - 1)) :
    s.backoff attempt = min (s.minBackoff * 2 ^ (attempt - 1)) s.maxBackoff := by
  obtain hfits | hspent := le_or_gt attempt 32
  · rw [backoff, backoffFactor_of_le hfits]
  · have hmax : s.maxBackoff ≤ s.minBackoff * (2 ^ 32 - 1) := h.resolve_left (by omega)
    have hpow : 2 ^ 32 ≤ 2 ^ (attempt - 1) := Nat.pow_le_pow_right (by decide) (by omega)
    have hfactor : s.minBackoff * (2 ^ 32 - 1) ≤ s.minBackoff * 2 ^ (attempt - 1) :=
      Nat.mul_le_mul_left _ (by omega)
    rw [backoff, backoffFactor_of_lt hspent, min_eq_right hmax,
      min_eq_right (hmax.trans hfactor)]

example : (List.range' 1 7).map initial.backoff =
    [250, 500, 1000, 2000, 4000, 8000, 8000].map Duration.ofMillis := by decide

/-- Settings with which a client makes an attempt, prepares transactions for a node and has bounds
for its pauses that are in order. -/
structure Bounded (s : Settings) : Prop where
  attempts : 1 ≤ s.maxAttempts
  nodes : 1 ≤ s.maxNodes
  order : s.minBackoff ≤ s.maxBackoff

theorem Bounded.minBackoff_le (h : s.Bounded) (attempt : Nat) :
    s.minBackoff ≤ s.backoff attempt :=
  Nat.le_min.mpr ⟨Nat.le_mul_of_pos_right _ (backoffFactor_pos attempt), h.order⟩

theorem bounded_initial : initial.Bounded where
  attempts := by decide
  nodes := by decide
  order := by decide

end Settings

/-! ## Ways to settings -/

/-- Something that can be set about a client. -/
inductive Adjustment where
  | operator (operator : Operator)
  | ledger (ledger : Ledger)
  | maxAttempts (n : Nat)
  | backoff (least greatest : Duration)
  | requestTimeout (time : Duration)
  | attemptTimeout (time : Duration)
  | maxNodes (n : Nat)
  | defaultFee (fee : Amount)
  | validatesChecksums (validates : Bool)

/-- What an adjustment makes of settings. -/
def Settings.adjust (s : Settings) : Adjustment → Settings
  | .operator _ | .ledger _ => s
  | .maxAttempts n => s.setMaxAttempts n
  | .backoff least greatest => s.setBackoff least greatest
  | .requestTimeout time => { s with requestTimeout := time }
  | .attemptTimeout time => { s with attemptTimeout := time }
  | .maxNodes n => s.setMaxNodes n
  | .defaultFee fee => { s with defaultFee := some fee }
  | .validatesChecksums validates => { s with validatesChecksums := validates }

theorem Settings.Bounded.adjust {s : Settings} (h : s.Bounded) (a : Adjustment) :
    (s.adjust a).Bounded := by
  cases a with
  | operator | ledger => exact h
  | maxAttempts n => exact { h with attempts := Nat.le_max_right n 1 }
  | backoff least greatest => exact { h with order := Nat.min_le_right least greatest }
  | maxNodes n => exact { h with nodes := Nat.le_max_right n 1 }
  | requestTimeout | attemptTimeout | defaultFee | validatesChecksums =>
    exact ⟨h.attempts, h.nodes, h.order⟩

namespace Client

variable {ω κ : Type}

/-- A client with an adjustment. -/
def adjust (c : Client κ) : Adjustment → Client κ
  | .operator operator => { c with operator := some operator }
  | .ledger ledger => { c with ledger := some ledger }
  | a => c.withSettings fun s => s.adjust a

theorem settings_adjust (c : Client κ) (a : Adjustment) :
    (c.adjust a).settings = c.settings.adjust a := by
  cases a <;> rfl

/-- The clients that are made from a network or a configuration, adjusted and used in any order. -/
inductive Configured : Client κ → Prop
  | ofNetwork (network : List (String × EntityId)) : Configured (.ofNetwork network)
  | ofConfiguration {description : Configuration} {c : Client κ}
      (h : ofConfiguration description = .ok c) : Configured c
  | adjust {c : Client κ} (h : Configured c) (a : Adjustment) : Configured (c.adjust a)
  | run {ω α : Type} {s : Session ω κ} (h : Configured s.client) (host : Host ω κ)
      (q : Inquiry α) (deadline : Option Moment) : Configured (q.run host deadline s).2.client

/-- A client that is made from a configuration has its settings, with bounds in order. -/
theorem settings_of_ofConfiguration {description : Configuration} {c : Client κ}
    (h : ofConfiguration description = .ok c) :
    c.settings = description.settings ∧
      description.settings.minBackoff ≤ description.settings.maxBackoff := by
  -- Whatever the operator is, the bounds are looked at before the client is made.
  have hmade : ∀ operator : Option Operator,
      (do
        if description.settings.maxBackoff < description.settings.minBackoff then
          throw (Error.configuration .backoffOrder)
        return { ofNetwork description.network with
          ledger := description.ledger, operator, settings := description.settings } :
        Except Error (Client κ)) = .ok c →
      c.settings = description.settings ∧
        description.settings.minBackoff ≤ description.settings.maxBackoff := by
    intro operator hmade
    by_cases hdisorder : description.settings.maxBackoff < description.settings.minBackoff
    · rw [if_pos hdisorder] at hmade
      cases hmade
    · rw [if_neg hdisorder] at hmade
      cases hmade
      exact ⟨rfl, Nat.le_of_not_lt hdisorder⟩
  rw [ofConfiguration] at h
  by_cases hempty : description.network.isEmpty = true
  · rw [if_pos hempty] at h
    cases h
  · rw [if_neg hempty] at h
    cases hoperator : description.operator with
    | none =>
      rw [hoperator] at h
      exact hmade none h
    | some o =>
      rw [hoperator] at h
      obtain ⟨key, -, h⟩ := bind_eq_ok.mp h
      exact hmade (some ⟨o.account, key⟩) h

theorem bounded_of_ofConfiguration {description : Configuration} {c : Client κ}
    (h : ofConfiguration description = .ok c) : c.settings.Bounded := by
  obtain ⟨hsettings, horder⟩ := settings_of_ofConfiguration h
  rw [hsettings]
  refine ⟨?_, Settings.bounded_initial.nodes, horder⟩
  rw [Configuration.settings]
  cases description.maxAttempts with
  | none => exact Settings.bounded_initial.attempts
  | some n => exact Nat.le_max_right n 1

/-- Nothing that happens in an inquiry changes the settings of the client. -/
theorem respects_settings (host : Host ω κ) : host.Respects (fun _ => True) fun s s' =>
    s'.client.settings = s.client.settings where
  refl _ := rfl
  trans h h' := h'.trans h
  step _ _ := rfl
  pool _ _ _ := rfl
  node _ _ _ _ := rfl

theorem Configured.bounded {c : Client κ} (h : c.Configured) : c.settings.Bounded := by
  induction h with
  | ofNetwork => exact Settings.bounded_initial
  | ofConfiguration h => exact bounded_of_ofConfiguration h
  | adjust _ a ih =>
    rw [settings_adjust]
    exact ih.adjust a
  | run _ host q deadline ih =>
    rw [(respects_settings host).stays_run q deadline (fun _ => trivial)]
    exact ih

end Client

/-! ## Pauses in words -/

/-- A duration as a machine keeps it: seconds, and nanoseconds that do not make another one. -/
structure Span where
  seconds : UInt64
  nanos : UInt32
  nanos_lt : nanos.toNat < 1000000000

namespace Span

/-- The nanoseconds that a span counts. -/
def toNat (s : Span) : Nat := s.seconds.toNat * 1000000000 + s.nanos.toNat

theorem toNat_lt (s : Span) : s.toNat < 2 ^ 64 * 1000000000 := by
  have hseconds := s.seconds.toNat_lt
  have hnanos := s.nanos_lt
  rw [toNat]
  omega

theorem toNat_injective {s t : Span} (h : s.toNat = t.toNat) : s = t := by
  obtain ⟨seconds, nanos, hnanos⟩ := s
  obtain ⟨seconds', nanos', hnanos'⟩ := t
  simp only [toNat] at h
  obtain rfl : seconds = seconds' := UInt64.toNat_inj.mp (by omega)
  obtain rfl : nanos = nanos' := UInt32.toNat_inj.mp (by omega)
  rfl

/-- The span of seconds and nanoseconds, if these do not make another second. -/
def ofParts? (seconds : UInt64) (nanos : UInt32) : Option Span :=
  if h : nanos.toNat < 1000000000 then some ⟨seconds, nanos, h⟩ else none

theorem toNat_of_ofParts? {seconds : UInt64} {nanos : UInt32} {s : Span}
    (h : ofParts? seconds nanos = some s) :
    s.toNat = seconds.toNat * 1000000000 + nanos.toNat := by
  unfold ofParts? at h
  split at h
  · cases h
    rfl
  · cases h

/-- The product of a span and a factor, if it fits. -/
def mul? (s : Span) (factor : UInt32) : Option Span := do
  let fraction ← Exact.mul? s.nanos.toUInt64 factor.toUInt64
  let (carried, nanos) ← Exact.divMod? fraction 1000000000
  let whole ← Exact.mul? s.seconds factor.toUInt64
  ofParts? (← Exact.add? whole carried) (← Exact.narrow? nanos)

theorem toNat_mul (s : Span) (factor : Nat) :
    s.toNat * factor = s.seconds.toNat * factor * 1000000000 + s.nanos.toNat * factor := by
  rw [toNat]
  ring

theorem toNat_of_mul? {s t : Span} {factor : UInt32} (h : s.mul? factor = some t) :
    t.toNat = s.toNat * factor.toNat := by
  simp only [mul?, Option.bind_eq_bind, Option.bind_eq_some_iff, Prod.exists,
    Exact.mul?_eq_some_iff, Exact.add?_eq_some_iff, Exact.narrow?_eq_some_iff,
    UInt32.toNat_toUInt64] at h
  obtain ⟨fraction, hfraction, carried, left, hdivMod, whole, hwhole, seconds, hseconds, nanos,
    hnanos, hparts⟩ := h
  obtain ⟨hcarried, hleft⟩ := Exact.toNat_of_divMod? hdivMod
  have hsecond : (1000000000 : UInt64).toNat = 1000000000 := rfl
  rw [hsecond] at hcarried hleft
  rw [toNat_of_ofParts? hparts, toNat_mul, ← hfraction, ← hwhole]
  omega

/-- A product that fits into a span is computed without leaving any word on the way. -/
theorem exists_mul? {s : Span} {factor : UInt32}
    (h : s.toNat * factor.toNat < 2 ^ 64 * 1000000000) : ∃ t, s.mul? factor = some t := by
  have hword : s.nanos.toNat * factor.toNat < 1000000000 * 2 ^ 32 :=
    Nat.mul_lt_mul'' s.nanos_lt factor.toNat_lt
  rw [toNat_mul] at h
  have hfactor := UInt32.toNat_toUInt64 factor
  have hpart := UInt32.toNat_toUInt64 s.nanos
  obtain ⟨fraction, hmul, hfraction⟩ :=
    Exact.exists_mul? (a := s.nanos.toUInt64) (b := factor.toUInt64) (by
      rw [hpart, hfactor]
      omega)
  obtain ⟨whole, hmul', hwhole⟩ :=
    Exact.exists_mul? (a := s.seconds) (b := factor.toUInt64) (by
      rw [hfactor]
      omega)
  rw [hfactor] at hfraction hwhole
  rw [hpart] at hfraction
  obtain ⟨carried, left, hdivMod, hcarried, hleft⟩ :=
    Exact.exists_divMod? (a := fraction) (b := 1000000000) (by decide)
  have hsecond : (1000000000 : UInt64).toNat = 1000000000 := rfl
  rw [hsecond] at hcarried hleft
  obtain ⟨seconds, hadd, -⟩ := Exact.exists_add? (a := whole) (b := carried) (by omega)
  obtain ⟨nanos, hnarrow, hnanos⟩ := Exact.exists_narrow? (a := left) (by omega)
  have hfits : nanos.toNat < 1000000000 := by omega
  refine ⟨⟨seconds, nanos, hfits⟩, ?_⟩
  simp [mul?, hmul, hmul', hdivMod, hadd, hnarrow, ofParts?, hfits]

/-- A product is the span that lasts as long, so there is none only if no span does. -/
theorem mul?_eq_some_iff {s t : Span} {factor : UInt32} :
    s.mul? factor = some t ↔ t.toNat = s.toNat * factor.toNat := by
  constructor
  · exact toNat_of_mul?
  · intro h
    obtain ⟨t', ht'⟩ := exists_mul? (h ▸ t.toNat_lt)
    rw [ht', toNat_injective ((toNat_of_mul? ht').trans h.symm)]

/-- The shorter one of two spans. -/
def min (s t : Span) : Span :=
  if t.seconds < s.seconds ∨ t.seconds = s.seconds ∧ t.nanos < s.nanos then t else s

theorem toNat_min (s t : Span) : (s.min t).toNat = Min.min s.toNat t.toNat := by
  have hs := s.nanos_lt
  have ht := t.nanos_lt
  simp only [min, UInt64.lt_iff_toNat_lt, UInt32.lt_iff_toNat_lt, ← UInt64.toNat_inj]
  split
  · rw [Nat.min_eq_right]
    simp only [toNat]
    omega
  · rw [Nat.min_eq_left]
    simp only [toNat]
    omega

/-- How many attempts there were before an attempt. -/
def attemptsBefore (attempt : UInt64) : UInt64 := if attempt = 0 then 0 else attempt - 1

theorem toNat_attemptsBefore (attempt : UInt64) :
    (attemptsBefore attempt).toNat = attempt.toNat - 1 := by
  by_cases h : attempt = 0
  · rw [attemptsBefore, if_pos h, h]
    rfl
  · have hpos : 1 ≤ attempt.toNat := by
      by_contra hzero
      exact h (UInt64.toNat_inj.mp (Nat.lt_one_iff.mp (Nat.lt_of_not_le hzero)))
    rw [attemptsBefore, if_neg h, UInt64.toNat_sub_of_le _ _ hpos, UInt64.toNat_one]

/-- How often the factor of the pause after an attempt has doubled, as far as a word goes. -/
def doublings (attempt : UInt64) : UInt32 :=
  (Exact.narrow? (attemptsBefore attempt)).getD 0xffffffff

theorem toNat_doublings (attempt : UInt64) :
    (doublings attempt).toNat = Min.min (attempt.toNat - 1) 4294967295 := by
  have hbefore := toNat_attemptsBefore attempt
  by_cases hfits : (attemptsBefore attempt).toNat < 2 ^ 32
  · obtain ⟨doublings', hnarrow, heq⟩ := Exact.exists_narrow? hfits
    rw [doublings, hnarrow, Option.getD_some, heq, hbefore, Nat.min_eq_left (by omega)]
  · have hnarrow : Exact.narrow? (attemptsBefore attempt) = none := if_neg hfits
    rw [doublings, hnarrow, Option.getD_none, Nat.min_eq_right (by omega)]
    rfl

/-- The factor of a pause in a word is the factor of the pause. -/
theorem toNat_factor_doublings (attempt : UInt64) :
    (Gauge.factor (doublings attempt)).toNat = Settings.backoffFactor attempt.toNat := by
  have hdoublings := toNat_doublings attempt
  rw [Gauge.toNat_factor]
  obtain h | h := le_or_gt attempt.toNat 32
  · rw [Settings.backoffFactor_of_le h, if_pos (by omega), hdoublings,
      Nat.min_eq_left (by omega)]
  · rw [Settings.backoffFactor_of_lt h, if_neg (by omega)]
    rfl

/-- The pause after an attempt between two bounds. -/
def backoff (least greatest : Span) (attempt : UInt64) : Span :=
  match least.mul? (Gauge.factor (doublings attempt)) with
  | some span => span.min greatest
  | none => greatest

/-- A product that does not fit is beyond the upper bound, so the pause is the same. -/
theorem toNat_backoff (least greatest : Span) (attempt : UInt64) :
    (least.backoff greatest attempt).toNat =
      Min.min (least.toNat * Settings.backoffFactor attempt.toNat) greatest.toNat := by
  rw [← toNat_factor_doublings, backoff]
  cases hproduct : least.mul? (Gauge.factor (doublings attempt)) with
  | some span => rw [toNat_min, toNat_of_mul? hproduct]
  | none =>
    have hlong : 2 ^ 64 * 1000000000 ≤
        least.toNat * (Gauge.factor (doublings attempt)).toNat := by
      by_contra hfits
      obtain ⟨span, hspan⟩ := exists_mul? (Nat.lt_of_not_le hfits)
      rw [hproduct] at hspan
      cases hspan
    rw [Nat.min_eq_right (greatest.toNat_lt.le.trans hlong)]

end Span

/-- A client that was made from a network or a configuration, adjusted and used, makes an attempt
and prepares transactions for a node at least, and has bounds for its pauses that are in order. The
pauses stay between them and do not get shorter. As long as the powers of two fit into a word of 32
bits, or if the largest word takes the lower bound to the upper one, they are the lower bound
doubled after each attempt but the first, up to the upper bound. From bounds in words a machine
computes the same pauses, whatever the number of the attempt is. -/
theorem Client.Configured.backoff_stays {κ : Type} {c : Client κ} (hc : c.Configured) :
    c.settings.Bounded ∧
      (∀ attempt, c.settings.minBackoff ≤ c.settings.backoff attempt ∧
        c.settings.backoff attempt ≤ c.settings.maxBackoff) ∧
      (∀ attempt later, attempt ≤ later →
        c.settings.backoff attempt ≤ c.settings.backoff later) ∧
      (∀ attempt, attempt ≤ 32 ∨
          c.settings.maxBackoff ≤ c.settings.minBackoff * (2 ^ 32 - 1) →
        c.settings.backoff attempt =
          min (c.settings.minBackoff * 2 ^ (attempt - 1)) c.settings.maxBackoff) ∧
      ∀ least greatest : Span, least.toNat = c.settings.minBackoff →
        greatest.toNat = c.settings.maxBackoff → ∀ attempt : UInt64,
          (least.backoff greatest attempt).toNat = c.settings.backoff attempt.toNat := by
  have hbounded := hc.bounded
  refine ⟨hbounded, fun attempt => ⟨hbounded.minBackoff_le attempt, ?_⟩, ?_, ?_, ?_⟩
  · exact Settings.backoff_le_maxBackoff attempt
  · intro attempt later h
    exact Settings.backoff_mono h
  · intro attempt h
    exact Settings.backoff_eq h
  · intro least greatest hleast hgreatest attempt
    rw [Span.toNat_backoff, hleast, hgreatest]
    rfl

/-- From the shortest pause there is, the largest factor does not lead to ten seconds. -/
theorem Client.Configured.backoff_stays_nanosecond :
    let c : Client Unit := (Client.ofNetwork []).adjust (.backoff 1 (Duration.ofSeconds 10))
    c.Configured ∧ c.settings.Bounded ∧ c.settings.backoff 32 = 2 ^ 31 ∧
      ∀ attempt : UInt64, 32 ≤ attempt.toNat →
        2 ^ 31 ≤ (Span.backoff ⟨0, 1, by decide⟩ ⟨10, 0, by decide⟩ attempt).toNat := by
  intro c
  have hc : c.Configured := .adjust (.ofNetwork []) _
  obtain ⟨hbounded, -, hmono, heq, hwords⟩ := backoff_stays hc
  have hleast : c.settings.minBackoff = 1 := rfl
  have hgreatest : c.settings.maxBackoff = 10000000000 := rfl
  have hlast : c.settings.backoff 32 = 2 ^ 31 := by
    rw [heq 32 (.inl (by decide)), hleast, hgreatest]
    norm_num
  refine ⟨hc, hbounded, hlast, fun attempt h => ?_⟩
  have hleast' : Span.toNat ⟨0, 1, by decide⟩ = 1 := by decide
  have hgreatest' : Span.toNat ⟨10, 0, by decide⟩ = 10000000000 := by decide
  rw [hwords _ _ (hleast'.trans hleast.symm) (hgreatest'.trans hgreatest.symm), ← hlast]
  exact hmono 32 _ h

end HbarKit
