import HbarKit.Proofs.Text.Words
import HbarKit.Text.Lowercase
import Mathlib

/-!
# Text in lowercase

A text in lowercase stays as it is when it is taken to lowercase again, and lowercase brings no
blanks into a text. Both are read off the table run by run: the lowercase of a run keeps clear of
all runs and of all blanks.
-/
namespace HbarKit.Text

/-! ## The table -/

namespace CaseRun

/-- Whether the lowercase of a run keeps clear of the numbers at a distance `step` from each other
from `first` to `last`: it lies in front of them, behind them or, at a distance of two, between
them. -/
def clears (r : CaseRun) (first last step : Nat) : Bool :=
  last.blt r.target || (r.lowercase r.last).blt first ||
    step.beq 2 && (r.step.beq 2 || r.first.beq r.last) && !(r.target % 2).beq (first % 2)

theorem not_mem_of_clears {r : CaseRun} {first last step n : Nat}
    (h : r.clears first last step = true) (hn : r.contains n = true) :
    ¬ (first ≤ r.lowercase n ∧ r.lowercase n ≤ last ∧ (r.lowercase n - first) % step = 0) := by
  simp only [contains, Bool.and_eq_true, decide_eq_true_eq, beq_iff_eq] at hn
  simp only [clears, lowercase, Bool.or_eq_true, Bool.and_eq_true, Bool.not_eq_true', Nat.blt_eq,
    Nat.beq_eq, ← Bool.not_eq_true] at h
  rintro ⟨hfirst, hlast, hstep⟩
  obtain ⟨⟨hge, hle⟩, hmod⟩ := hn
  simp only [lowercase] at hfirst hlast hstep
  obtain (hbehind | hfront) | ⟨⟨hs, hr | hr⟩, hparity⟩ := h
  · omega
  · omega
  · rw [hs] at hstep
    rw [hr] at hmod
    omega
  · rw [hs] at hstep
    omega

end CaseRun

/-- The lowercase of the table keeps clear of the table. -/
theorem clears_runs : (lowercaseRuns.all fun r =>
    lowercaseRuns.all fun s => r.clears s.first s.last s.step) = true := by
  decide +kernel

/-- What else the lowercase of the table keeps clear of: the capitals of ASCII, the two characters
that are no matter of the table, and all blanks. -/
def gaps : List (Nat × Nat) :=
  [(0x41, 0x5A), (0x130, 0x130), (0x3A3, 0x3A3), (9, 13), (0x20, 0x20), (0x85, 0x85), (0xA0, 0xA0),
    (0x1680, 0x1680), (0x2000, 0x200A), (0x2028, 0x2028), (0x2029, 0x2029), (0x202F, 0x202F),
    (0x205F, 0x205F), (0x3000, 0x3000)]

theorem clears_gaps : (lowercaseRuns.all fun r => gaps.all fun g => r.clears g.1 g.2 1) = true := by
  decide +kernel

theorem isBlank_of_gaps {c : Char} (h : ∀ g ∈ gaps, c.toNat < g.1 ∨ g.2 < c.toNat) :
    isBlank c = false := by
  simp only [gaps, List.forall_mem_cons] at h
  simp only [isBlank, Bool.or_eq_false_iff, Bool.and_eq_false_iff, decide_eq_false_iff_not,
    beq_eq_false_iff_ne]
  omega

theorem not_mem_gap {r : CaseRun} (hr : r ∈ lowercaseRuns) {n : Nat} (hn : r.contains n = true)
    {g : Nat × Nat} (hg : g ∈ gaps) : r.lowercase n < g.1 ∨ g.2 < r.lowercase n := by
  have hclear := List.all_eq_true.mp (List.all_eq_true.mp clears_gaps r hr) g hg
  have hnot := CaseRun.not_mem_of_clears hclear hn
  rw [Nat.mod_one] at hnot
  omega

/-- A number is its own lowercase, or in a run that tells its lowercase. -/
theorem tableLowercase_cases (n : Nat) :
    tableLowercase n = n ∨
      ∃ r ∈ lowercaseRuns, r.contains n = true ∧ tableLowercase n = r.lowercase n := by
  unfold tableLowercase
  split
  · rename_i r hr
    exact .inr ⟨r, List.mem_of_find?_eq_some hr, by simpa using List.find?_some hr, rfl⟩
  · exact .inl rfl

theorem tableLowercase_of_not_contains {n : Nat}
    (h : ∀ r ∈ lowercaseRuns, r.contains n = false) : tableLowercase n = n := by
  have hnone : lowercaseRuns.find? (fun r => r.contains n) = none := by
    rw [List.find?_eq_none]
    intro r hr
    simp [h r hr]
  rw [tableLowercase, hnone]

theorem tableLowercase_lowercase {r : CaseRun} (hr : r ∈ lowercaseRuns) {n : Nat}
    (hn : r.contains n = true) : tableLowercase (r.lowercase n) = r.lowercase n := by
  apply tableLowercase_of_not_contains
  intro s hs
  rw [Bool.eq_false_iff]
  intro hcontains
  have hclear := List.all_eq_true.mp (List.all_eq_true.mp clears_runs r hr) s hs
  apply CaseRun.not_mem_of_clears hclear hn
  simpa [CaseRun.contains, and_assoc] using hcontains

/-- The characters that stand for those that are no matter of the table: the dot above, and the two
small sigmas. -/
def marks : List Nat := [0x307, 0x3C2, 0x3C3]

theorem runs_miss_marks :
    (lowercaseRuns.all fun r => marks.all fun n => !r.contains n) = true := by
  decide +kernel

/-! ## Characters -/

/-- A character that lowercasing leaves as it is wherever it stands. -/
structure IsLowercase (c : Char) : Prop where
  ne_sigma : c.toNat ≠ 0x3A3
  lowercaseChar_eq : lowercaseChar c = [c]

/-- The lowercase of an ASCII character, which is blank only if the character is. -/
theorem isLowercase_toLower {c : Char} (h : c.toNat < 0x80) :
    IsLowercase c.toLower ∧ (isBlank c = false → isBlank c.toLower = false) := by
  have hall : ∀ n < 0x80, (Char.ofNat n).toLower.toNat ≠ 0x3A3 ∧
      lowercaseChar (Char.ofNat n).toLower = [(Char.ofNat n).toLower] ∧
      (isBlank (Char.ofNat n) = false → isBlank (Char.ofNat n).toLower = false) := by
    decide +kernel
  have hc := hall c.toNat h
  rw [Char.ofNat_toNat] at hc
  exact ⟨⟨hc.1, hc.2.1⟩, hc.2.2⟩

theorem isLowercase_of_ascii {c : Char} (h : c.toNat < 0x80)
    (hcapital : c.toNat < 0x41 ∨ 0x5A < c.toNat) : IsLowercase c := by
  have hc : ¬ (c.val ≥ 'A'.val ∧ c.val ≤ 'Z'.val) := by
    rintro ⟨hge, hle⟩
    have hge' : 0x41 ≤ c.toNat := hge
    have hle' : c.toNat ≤ 0x5A := hle
    omega
  refine ⟨by omega, ?_⟩
  rw [lowercaseChar, if_pos h, Char.toLower, dif_neg hc]

theorem isLowercase_of_tableLowercase {c : Char} (hsigma : c.toNat ≠ 0x3A3)
    (hdotted : c.toNat ≠ 0x130) (hcapital : c.toNat < 0x41 ∨ 0x5A < c.toNat)
    (htable : tableLowercase c.toNat = c.toNat) : IsLowercase c := by
  by_cases hascii : c.toNat < 0x80
  · exact isLowercase_of_ascii hascii hcapital
  · refine ⟨hsigma, ?_⟩
    rw [lowercaseChar, if_neg hascii, if_neg hdotted, htable, Char.ofNat_toNat]

/-- The lowercase of a run is lowercase and not blank. Were it no character, it would stand for the
character of number zero. -/
theorem isLowercase_of_run {r : CaseRun} (hr : r ∈ lowercaseRuns) {n : Nat}
    (hn : r.contains n = true) :
    IsLowercase (Char.ofNat (r.lowercase n)) ∧ isBlank (Char.ofNat (r.lowercase n)) = false := by
  have hnumber := Char.toNat_ofNat (r.lowercase n)
  split at hnumber
  · have hgaps : ∀ g ∈ gaps, (Char.ofNat (r.lowercase n)).toNat < g.1 ∨
        g.2 < (Char.ofNat (r.lowercase n)).toNat := by
      rw [hnumber]
      exact fun g hg => not_mem_gap hr hn hg
    have hsigma := hgaps (0x3A3, 0x3A3) (by decide)
    have hdotted := hgaps (0x130, 0x130) (by decide)
    refine ⟨isLowercase_of_tableLowercase (by omega) (by omega) (hgaps (0x41, 0x5A) (by decide)) ?_,
      isBlank_of_gaps hgaps⟩
    rw [hnumber]
    exact tableLowercase_lowercase hr hn
  · have hzero : Char.ofNat (r.lowercase n) = Char.ofNat 0 := Char.toNat_inj.mp hnumber
    rw [hzero]
    exact ⟨⟨by decide, by decide⟩, by decide⟩

/-- The marks are lowercase and not blank. -/
theorem isLowercase_of_mem_marks {n : Nat} (h : n ∈ marks) :
    IsLowercase (Char.ofNat n) ∧ isBlank (Char.ofNat n) = false := by
  have hnumber : ∀ m ∈ marks, (Char.ofNat m).toNat = m := by decide
  have hapart : ∀ m ∈ marks, m ≠ 0x3A3 ∧ m ≠ 0x130 ∧ 0x5A < m ∧ isBlank (Char.ofNat m) = false := by
    decide
  obtain ⟨hsigma, hdotted, hcapital, hblank⟩ := hapart n h
  refine ⟨isLowercase_of_tableLowercase ?_ ?_ ?_ ?_, hblank⟩
  · rwa [hnumber n h]
  · rwa [hnumber n h]
  · rw [hnumber n h]
    exact .inr hcapital
  · rw [hnumber n h]
    apply tableLowercase_of_not_contains
    intro r hr
    have hmiss := List.all_eq_true.mp (List.all_eq_true.mp runs_miss_marks r hr) n h
    simpa using hmiss

/-- The lowercase of a character other than the capital sigma. -/
theorem isLowercase_of_mem_lowercaseChar {c d : Char} (hc : c.toNat ≠ 0x3A3)
    (hd : d ∈ lowercaseChar c) : IsLowercase d ∧ (isBlank c = false → isBlank d = false) := by
  unfold lowercaseChar at hd
  split at hd
  · rename_i hascii
    rw [List.mem_singleton.mp hd]
    exact isLowercase_toLower hascii
  · split at hd
    · obtain rfl | hd := List.mem_cons.mp hd
      · exact ⟨⟨by decide, by decide⟩, fun _ => by decide⟩
      · rw [List.mem_singleton.mp hd]
        obtain ⟨hkept, hblank⟩ := isLowercase_of_mem_marks (n := 0x307) (by decide)
        exact ⟨hkept, fun _ => hblank⟩
    · rename_i hdotted
      rw [List.mem_singleton.mp hd]
      obtain hsame | ⟨r, hr, hn, hlower⟩ := tableLowercase_cases c.toNat
      · rw [hsame, Char.ofNat_toNat]
        exact ⟨isLowercase_of_tableLowercase hc hdotted (by omega) hsame, id⟩
      · rw [hlower]
        obtain ⟨hkept, hblank⟩ := isLowercase_of_run hr hn
        exact ⟨hkept, fun _ => hblank⟩

/-! ## Texts -/

theorem isLowercase_of_mem_lowercaseAfter {before cs : List Char} {d : Char}
    (hd : d ∈ lowercaseAfter before cs) :
    IsLowercase d ∧ ((∀ c ∈ cs, isBlank c = false) → isBlank d = false) := by
  induction cs generalizing before with
  | nil => cases hd
  | cons c cs ih =>
    obtain hd | hd := List.mem_append.mp hd
    · split at hd
      · have hmark : ∃ n ∈ marks, d = Char.ofNat n := by
          rw [List.mem_singleton.mp hd]
          split
          · exact ⟨0x3C2, by decide, rfl⟩
          · exact ⟨0x3C3, by decide, rfl⟩
        obtain ⟨n, hn, rfl⟩ := hmark
        obtain ⟨hkept, hblank⟩ := isLowercase_of_mem_marks hn
        exact ⟨hkept, fun _ => hblank⟩
      · rename_i hsigma
        obtain ⟨hkept, hblank⟩ := isLowercase_of_mem_lowercaseChar hsigma hd
        exact ⟨hkept, fun h => hblank (h c List.mem_cons_self)⟩
    · obtain ⟨hkept, hblank⟩ := ih hd
      exact ⟨hkept, fun h => hblank fun e he => h e (List.mem_cons_of_mem c he)⟩

theorem lowercaseAfter_of_isLowercase {cs : List Char} (h : ∀ c ∈ cs, IsLowercase c)
    (before : List Char) : lowercaseAfter before cs = cs := by
  induction cs generalizing before with
  | nil => rfl
  | cons c cs ih =>
    obtain ⟨hc, hcs⟩ := List.forall_mem_cons.mp h
    rw [lowercaseAfter, if_neg hc.ne_sigma, hc.lowercaseChar_eq, ih hcs, List.singleton_append]

theorem lowercaseChar_ne_nil (c : Char) : lowercaseChar c ≠ [] := by
  unfold lowercaseChar
  split
  · simp
  · split <;> simp

/-- The lowercase of a word is a word. -/
theorem IsWord.lowercaseAfter {cs : List Char} (h : IsWord cs) (before : List Char) :
    IsWord (lowercaseAfter before cs) := by
  refine ⟨?_, fun d hd => (isLowercase_of_mem_lowercaseAfter hd).2 h.not_blank⟩
  cases cs with
  | nil => exact absurd rfl h.ne_nil
  | cons c cs =>
    apply List.append_ne_nil_of_left_ne_nil
    split
    · simp
    · exact lowercaseChar_ne_nil c

/-- Text in lowercase stays as it is. -/
@[simp] theorem lowercase_lowercase (s : String) : lowercase (lowercase s) = lowercase s := by
  rw [lowercase, lowercase, String.toList_ofList, lowercaseAfter_of_isLowercase]
  exact fun c hc => (isLowercase_of_mem_lowercaseAfter hc).1

end HbarKit.Text
