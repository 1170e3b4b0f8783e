import Mathlib.Tactic

/-!
# Exact arithmetic in words

Products and sums of words of 64 bits, division, and the move of a word into one of 32 bits. Each is
made only if the word that comes of it is the number it should be. What is computed with them to the
end has never outgrown a word, lost its upper half or been divided by zero.
-/
namespace HbarKit.Exact

/-- The product of two words. -/
def mul? (a b : UInt64) : Option UInt64 :=
  if a.toNat * b.toNat < UInt64.size then some (a * b) else none

/-- The sum of two words. -/
def add? (a b : UInt64) : Option UInt64 :=
  if a.toNat + b.toNat < UInt64.size then some (a + b) else none

/-- The quotient and the remainder of two words. -/
def divMod? (a b : UInt64) : Option (UInt64 × UInt64) :=
  if b = 0 then none else some (a / b, a % b)

/-- The word of 32 bits that a word is. -/
def narrow? (a : UInt64) : Option UInt32 :=
  if a.toNat < UInt32.size then some a.toUInt32 else none

variable {a b c : UInt64}

/-! ## What is made -/

/-- An operation that is kept only if its number fits gives the word of that number, if any. -/
theorem ite_eq_some_iff {ω : Type} {toNat : ω → Nat} {n size : Nat} {made kept : ω}
    (hlt : ∀ w, toNat w < size) (hinj : ∀ v w, toNat v = toNat w → v = w)
    (hmade : toNat made = n % size) :
    (if n < size then some made else none) = some kept ↔ toNat kept = n := by
  by_cases h : n < size
  · rw [Nat.mod_eq_of_lt h] at hmade
    rw [if_pos h, Option.some_inj]
    constructor
    · rintro rfl
      exact hmade
    · intro hkept
      exact hinj _ _ (hmade.trans hkept.symm)
  · have hkept := hlt kept
    rw [if_neg h]
    constructor
    · rintro ⟨⟩
    · omega

theorem mul?_eq_some_iff : mul? a b = some c ↔ c.toNat = a.toNat * b.toNat :=
  ite_eq_some_iff UInt64.toNat_lt (fun _ _ => UInt64.toNat_inj.mp) (UInt64.toNat_mul a b)

theorem add?_eq_some_iff : add? a b = some c ↔ c.toNat = a.toNat + b.toNat :=
  ite_eq_some_iff UInt64.toNat_lt (fun _ _ => UInt64.toNat_inj.mp) (UInt64.toNat_add a b)

theorem narrow?_eq_some_iff {c : UInt32} : narrow? a = some c ↔ c.toNat = a.toNat :=
  ite_eq_some_iff UInt32.toNat_lt (fun _ _ => UInt32.toNat_inj.mp) (UInt64.toNat_toUInt32 a)

theorem toNat_of_divMod? {q r : UInt64} (h : divMod? a b = some (q, r)) :
    q.toNat = a.toNat / b.toNat ∧ r.toNat = a.toNat % b.toNat := by
  unfold divMod? at h
  split at h
  · cases h
  · cases h
    exact ⟨UInt64.toNat_div a b, UInt64.toNat_mod a b⟩

/-! ## When it is made -/

theorem exists_mul? (h : a.toNat * b.toNat < 2 ^ 64) :
    ∃ c, mul? a b = some c ∧ c.toNat = a.toNat * b.toNat := by
  have hmade : mul? a b = some (a * b) := if_pos h
  exact ⟨_, hmade, mul?_eq_some_iff.mp hmade⟩

theorem exists_add? (h : a.toNat + b.toNat < 2 ^ 64) :
    ∃ c, add? a b = some c ∧ c.toNat = a.toNat + b.toNat := by
  have hmade : add? a b = some (a + b) := if_pos h
  exact ⟨_, hmade, add?_eq_some_iff.mp hmade⟩

theorem exists_narrow? (h : a.toNat < 2 ^ 32) : ∃ c, narrow? a = some c ∧ c.toNat = a.toNat := by
  have hmade : narrow? a = some a.toUInt32 := if_pos h
  exact ⟨_, hmade, narrow?_eq_some_iff.mp hmade⟩

theorem exists_divMod? (h : 0 < b.toNat) :
    ∃ q r, divMod? a b = some (q, r) ∧ q.toNat = a.toNat / b.toNat ∧
      r.toNat = a.toNat % b.toNat := by
  have hb : b ≠ 0 := by
    rintro rfl
    exact absurd h (lt_irrefl 0)
  have hmade : divMod? a b = some (a / b, a % b) := if_neg hb
  exact ⟨_, _, hmade, toNat_of_divMod? hmade⟩

end HbarKit.Exact
