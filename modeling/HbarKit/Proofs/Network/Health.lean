import HbarKit.Proofs.Network.Nodes
import Mathlib.Data.List.DropRight
import Mathlib.Tactic

/-!
# Health and what it tells of the past

Each time a node fails or succeeds a mark is put on it, and its health tells about its marks how
many failures there were since the last success and when the bench time of the last of them is over.
A machine counts the failures in a word of 32 bits and doubles the bench time by a shift, which is
spent after 32 places. Yet it gives the same bench times, as all of them are cut to an hour long
before.
-/
namespace HbarKit

/-- A failure at a moment, or a success. -/
inductive Mark where
  | failure (time : Moment)
  | success
  deriving DecidableEq, Repr

namespace Mark

/-- Whether a mark is that of a failure. -/
def isFailure : Mark → Bool
  | failure _ => true
  | success => false

/-- How many failures there were since the last success. -/
def streak (marks : List Mark) : Nat := (marks.rtakeWhile isFailure).length

@[simp] theorem streak_failure (marks : List Mark) (time : Moment) :
    streak (marks ++ [failure time]) = streak marks + 1 := by
  rw [streak, List.rtakeWhile_concat_pos _ _ _ rfl, List.length_append, streak]
  rfl

@[simp] theorem streak_success (marks : List Mark) : streak (marks ++ [success]) = 0 := by
  rw [streak, List.rtakeWhile_concat_neg _ _ _ Bool.false_ne_true]
  rfl

end Mark

open Mark (streak)

/-! ## Marks on nodes -/

namespace Node

/-- A node with one more mark. -/
def mark (n : Node) : Mark → Node
  | .failure time => (n.bench time).2
  | .success => n.readmit

/-- A node with some more marks. -/
def after (n : Node) (marks : List Mark) : Node := marks.foldl mark n

@[simp] theorem after_nil (n : Node) : n.after [] = n := rfl

theorem after_append (n : Node) (marks more : List Mark) :
    n.after (marks ++ more) = (n.after marks).after more := List.foldl_append

theorem after_concat (n : Node) (marks : List Mark) (m : Mark) :
    n.after (marks ++ [m]) = (n.after marks).mark m := by
  rw [after_append]
  rfl

theorem place_mark (n : Node) (m : Mark) : (n.mark m).place = n.place := by
  cases m with
  | failure time => exact n.place_bench time
  | success => exact n.place_readmit

/-- Marks leave a node where it is. -/
theorem place_after (n : Node) (marks : List Mark) : (n.after marks).place = n.place := by
  induction marks using List.reverseRecOn with
  | nil => rfl
  | append_singleton marks m ih => rw [after_concat, place_mark, ih]

theorem address_after (n : Node) (marks : List Mark) : (n.after marks).address = n.address :=
  congrArg Prod.fst (n.place_after marks)

theorem account_after (n : Node) (marks : List Mark) : (n.after marks).account = n.account :=
  congrArg Prod.snd (n.place_after marks)

variable (account : EntityId) (address : String)

/-- A node has as many failures as there were since its last success. -/
theorem failures_after (marks : List Mark) :
    ((new account address).after marks).health.failures = streak marks := by
  induction marks using List.reverseRecOn with
  | nil => rfl
  | append_singleton marks m ih =>
    rw [after_concat]
    cases m with
    | failure time =>
      rw [Mark.streak_failure, ← ih]
      rfl
    | success =>
      rw [Mark.streak_success]
      rfl

/-- The bench time doubles with each failure since the last success, up to an hour. -/
theorem bench_after (marks : List Mark) (now : Moment) :
    (((new account address).after marks).bench now).1 =
      min (Duration.ofSeconds 8 * 2 ^ streak marks) (Duration.ofSeconds 3600) := by
  rw [← failures_after account address marks]
  rfl

/-- A node is benched from a failure on until its bench time is over or it succeeds. -/
theorem isHealthy_after_iff (marks : List Mark) (now : Moment) :
    ((new account address).after marks).isHealthy now = true ↔
      streak marks = 0 ∨ ∃ earlier time, marks = earlier ++ [.failure time] ∧
        time + (((new account address).after earlier).bench time).1 ≤ now := by
  obtain rfl | ⟨marks, m, rfl⟩ := List.eq_nil_or_concat' marks
  · exact iff_of_true rfl (.inl rfl)
  · rw [after_concat]
    cases m with
    | failure time =>
      have hbenched : (((new account address).after marks).mark (.failure time)).isHealthy now =
          decide (time + (((new account address).after marks).bench time).1 ≤ now) := rfl
      rw [hbenched, decide_eq_true_iff, Mark.streak_failure]
      constructor
      · intro h
        exact .inr ⟨marks, time, rfl, h⟩
      · rintro (h | ⟨earlier, time', hmarks, h⟩)
        · cases h
        · obtain ⟨rfl, hlast⟩ := List.append_inj' hmarks rfl
          cases hlast
          exact h
    | success => exact iff_of_true rfl (.inl (Mark.streak_success marks))

end Node

/-! ## Health in words -/

/-- Health as a machine keeps it, with a count that stays at its largest value once it is there. -/
structure Gauge where
  failures : UInt32
  readmission : Option Moment

namespace Gauge

/-- No failures. -/
def start : Gauge := ⟨0, none⟩

/-- The largest count. -/
def maxCount : UInt32 := 0xffffffff

/-- A power of two, or the largest word if it does not fit in one. -/
def factor (failures : UInt32) : UInt32 := if failures < 32 then 1 <<< failures else maxCount

/-- The product of a number of seconds and a factor, if it fits in a word of 64 bits. -/
def product? (seconds : UInt64) (factor : UInt32) : Option UInt64 :=
  if seconds.toNat * factor.toNat < UInt64.size then some (seconds * factor.toUInt64) else none

/-- The seconds of a bench time. -/
def benchSeconds (failures : UInt32) : UInt64 :=
  match product? 8 (factor failures) with
  | some seconds => if seconds ≤ 3600 then seconds else 3600
  | none => 3600

/-- The seconds of the bench time of a failure now, and the health after it. -/
def fail (g : Gauge) (now : Moment) : UInt64 × Gauge :=
  let seconds := benchSeconds g.failures
  (seconds, ⟨if g.failures = maxCount then maxCount else g.failures + 1,
    some (now + Duration.ofSeconds seconds.toNat)⟩)

/-- Health with one more mark. -/
def mark (g : Gauge) : Mark → Gauge
  | .failure time => (g.fail time).2
  | .success => start

/-- Health with some more marks. -/
def after (g : Gauge) (marks : List Mark) : Gauge := marks.foldl mark g

theorem after_concat (g : Gauge) (marks : List Mark) (m : Mark) :
    g.after (marks ++ [m]) = (g.after marks).mark m := List.foldl_append

/-! ## Words and numbers -/

theorem toNat_factor (failures : UInt32) :
    (factor failures).toNat = if failures.toNat < 32 then 2 ^ failures.toNat else 4294967295 := by
  by_cases h : failures.toNat < 32
  · have hlt : failures < 32 := h
    have hpow : 2 ^ failures.toNat < 2 ^ 32 := Nat.pow_lt_pow_right (by decide) h
    rw [if_pos h, factor, if_pos hlt, UInt32.toNat_shiftLeft, Nat.mod_eq_of_lt h,
      Nat.shiftLeft_eq, UInt32.toNat_one, one_mul, Nat.mod_eq_of_lt hpow]
  · have hge : ¬ failures < 32 := h
    rw [if_neg h, factor, if_neg hge]
    rfl

/-- Eight seconds never outgrow a word, whatever the factor is. -/
theorem product?_factor (failures : UInt32) :
    ∃ seconds, product? 8 (factor failures) = some seconds ∧
      seconds.toNat = 8 * (factor failures).toNat := by
  have hfactor := (factor failures).toNat_lt
  have hfits : (8 : UInt64).toNat * (factor failures).toNat < UInt64.size := by
    change 8 * _ < 2 ^ 64
    omega
  refine ⟨_, if_pos hfits, ?_⟩
  rw [UInt64.toNat_mul, UInt32.toNat_toUInt64]
  exact Nat.mod_eq_of_lt hfits

theorem toNat_benchSeconds (failures : UInt32) :
    (benchSeconds failures).toNat = min (8 * (factor failures).toNat) 3600 := by
  obtain ⟨seconds, hproduct, hseconds⟩ := product?_factor failures
  have hle : seconds ≤ 3600 ↔ seconds.toNat ≤ 3600 := Iff.rfl
  rw [benchSeconds, hproduct, ← hseconds]
  simp only [hle]
  split
  · rename_i hshort
    rw [Nat.min_eq_left hshort]
  · rename_i hlong
    rw [Nat.min_eq_right (by omega)]
    rfl

/-- A count that stays at its largest value still gives the bench time. -/
theorem benchSeconds_eq {failures : UInt32} {count : Nat}
    (h : failures.toNat = min count 4294967295) :
    Duration.ofSeconds (benchSeconds failures).toNat = Health.benchTime count := by
  have hbench : Health.benchTime count = (min (8000000000 * 2 ^ count) 3600000000000 : Nat) := rfl
  rw [hbench, toNat_benchSeconds, toNat_factor, Duration.ofSeconds, Duration.nanosPerSecond]
  change (_ : Nat) = _
  by_cases hcount : count < 32
  · have hsame : failures.toNat = count := by omega
    rw [hsame, if_pos hcount]
    omega
  · -- The shift is spent, and the bench time is an hour.
    have hpow : 2 ^ 32 ≤ 2 ^ count := Nat.pow_le_pow_right (by decide) (by omega)
    rw [if_neg (by omega)]
    omega

/-- A gauge shows health if it counts the failures up to its largest value. -/
structure Shows (g : Gauge) (h : Health) : Prop where
  failures : g.failures.toNat = min h.failures 4294967295
  readmission : g.readmission = h.readmission

theorem Shows.fail {g : Gauge} {h : Health} (hshows : g.Shows h) (now : Moment) :
    Duration.ofSeconds (g.fail now).1.toNat = (h.fail now).1 ∧
      (g.fail now).2.Shows (h.fail now).2 := by
  have hbench := benchSeconds_eq hshows.failures
  have hcount := hshows.failures
  have hmax : maxCount.toNat = 4294967295 := rfl
  refine ⟨hbench, ?_, ?_⟩
  · simp only [Gauge.fail, Health.fail]
    by_cases hfull : g.failures = maxCount
    · rw [if_pos hfull, hmax]
      rw [hfull, hmax] at hcount
      omega
    · have hroom : g.failures.toNat ≠ 4294967295 := fun h => hfull (UInt32.toNat_inj.mp h)
      rw [if_neg hfull, UInt32.toNat_add, UInt32.toNat_one]
      omega
  · simp only [Gauge.fail, Health.fail, hbench]

theorem shows_after (account : EntityId) (address : String) (marks : List Mark) :
    (start.after marks).Shows ((Node.new account address).after marks).health := by
  induction marks using List.reverseRecOn with
  | nil => exact ⟨rfl, rfl⟩
  | append_singleton marks m ih =>
    rw [after_concat, Node.after_concat]
    cases m with
    | failure time => exact (ih.fail time).2
    | success => exact ⟨rfl, rfl⟩

end Gauge

end HbarKit
