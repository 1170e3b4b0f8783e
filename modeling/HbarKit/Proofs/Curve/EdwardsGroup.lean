import Mathlib.Tactic

/-!
# The group of an Edwards curve

The points of the curve `y² - x² = 1 + d x² y²` are added by one formula. If minus one is a square
in the field and `d` is not, its denominators are never zero, and the points form a group.
-/
namespace HbarKit.Edwards

/-- Coordinates in a field. -/
@[ext]
structure Pair (K : Type) where
  (x y : K)

namespace Pair

variable {K : Type} [Field K] {d : K} {P Q R : Pair K}

def OnCurve (d : K) (P : Pair K) : Prop := P.y ^ 2 - P.x ^ 2 = 1 + d * P.x ^ 2 * P.y ^ 2

/-- The product that the denominators of a sum are made of. -/
def mixed (d : K) (P Q : Pair K) : K := d * P.x * Q.x * P.y * Q.y

def across (P Q : Pair K) : K := P.x * Q.y + Q.x * P.y

def along (P Q : Pair K) : K := P.y * Q.y + P.x * Q.x

def add (d : K) (P Q : Pair K) : Pair K :=
  ⟨P.across Q / (1 + mixed d P Q), P.along Q / (1 - mixed d P Q)⟩

theorem add_x (P Q : Pair K) : (add d P Q).x = P.across Q / (1 + mixed d P Q) := rfl

/-! ## Denominators -/

theorem eq_zero_of_mul_sq {u v : K} (hd : ¬IsSquare d) (h : d * u ^ 2 = v ^ 2) : u = 0 := by
  by_contra hu
  exact hd ⟨v / u, by field_simp; exact h⟩

/-- Where a denominator is zero the coefficient turns a square into a square. -/
theorem mul_sq_of_mixed_sq {i : K} (hi : i ^ 2 = -1) (hP : P.OnCurve d) (hQ : Q.OnCurve d)
    (h : mixed d P Q ^ 2 = 1) :
    d * (P.x * P.y * (i * Q.x + Q.y)) ^ 2 = (i * P.x + mixed d P Q * P.y) ^ 2 := by
  rw [OnCurve] at hP hQ
  rw [mixed] at h ⊢
  linear_combination (d * P.x ^ 2 * P.y ^ 2) * hQ - hP +
    (d * P.x ^ 2 * P.y ^ 2 * Q.x ^ 2 - P.x ^ 2) * hi + (1 - P.y ^ 2) * h

/-- The denominators of a sum are not zero. -/
theorem mixed_sq_ne_one {i : K} (hi : i ^ 2 = -1) (hd : ¬IsSquare d) (htwo : (2 : K) ≠ 0)
    (hP : P.OnCurve d) (hQ : Q.OnCurve d) : mixed d P Q ^ 2 ≠ 1 := by
  intro h
  have hmixed : mixed d P Q ≠ 0 := by
    intro hzero
    rw [hzero, zero_pow two_ne_zero] at h
    exact zero_ne_one h
  obtain ⟨⟨⟨⟨-, hPx⟩, -⟩, hPy⟩, hQy⟩ : (((d ≠ 0 ∧ P.x ≠ 0) ∧ Q.x ≠ 0) ∧ P.y ≠ 0) ∧ Q.y ≠ 0 := by
    simpa only [mixed, mul_ne_zero_iff] using hmixed
  -- The same holds of the point below, so that `i x` would be both `y` and `-y`.
  have hbelow : OnCurve d ⟨Q.x, -Q.y⟩ := by
    rw [OnCurve] at hQ ⊢
    linear_combination hQ
  have hsum : i * Q.x + Q.y = 0 := by
    have hzero := eq_zero_of_mul_sq hd (mul_sq_of_mixed_sq hi hP hQ h)
    exact (mul_eq_zero.mp hzero).resolve_left (mul_ne_zero hPx hPy)
  have hdifference : i * Q.x + -Q.y = 0 := by
    have hsquare : mixed d P ⟨Q.x, -Q.y⟩ ^ 2 = 1 := by
      rw [← h, mixed, mixed]
      ring
    have hzero := eq_zero_of_mul_sq hd (mul_sq_of_mixed_sq hi hP hbelow hsquare)
    exact (mul_eq_zero.mp hzero).resolve_left (mul_ne_zero hPx hPy)
  exact mul_ne_zero htwo hQy (by linear_combination hsum - hdifference)

section
variable (h : mixed d P Q ^ 2 ≠ 1)
include h

theorem one_add_mixed_ne : 1 + mixed d P Q ≠ 0 := fun hzero =>
  h (by linear_combination (mixed d P Q - 1) * hzero)

theorem one_sub_mixed_ne : 1 - mixed d P Q ≠ 0 := fun hzero =>
  h (by linear_combination (-1 - mixed d P Q) * hzero)

theorem add_x_mul : (add d P Q).x * (1 + mixed d P Q) = P.across Q :=
  div_mul_cancel₀ _ (one_add_mixed_ne h)

theorem add_y_mul : (add d P Q).y * (1 - mixed d P Q) = P.along Q :=
  div_mul_cancel₀ _ (one_sub_mixed_ne h)

end

/-! ## Laws of sums -/

theorem mixed_swap (P Q : Pair K) : mixed d P Q = mixed d Q P := by
  rw [mixed, mixed]
  ring

theorem add_swap (P Q : Pair K) : add d P Q = add d Q P := by
  rw [add, add, mixed_swap P Q]
  ext <;> simp only [across, along] <;> ring

theorem zero_add_pair (P : Pair K) : add d ⟨0, 1⟩ P = P := by
  ext <;> simp [add, mixed, across, along]

theorem add_onCurve (h : mixed d P Q ^ 2 ≠ 1) (hP : P.OnCurve d) (hQ : Q.OnCurve d) :
    (add d P Q).OnCurve d := by
  have hadd := one_add_mixed_ne h
  have hsub := one_sub_mixed_ne h
  have hcleared : P.along Q ^ 2 * (1 + mixed d P Q) ^ 2 - P.across Q ^ 2 * (1 - mixed d P Q) ^ 2 =
      (1 + mixed d P Q) ^ 2 * (1 - mixed d P Q) ^ 2 + d * P.across Q ^ 2 * P.along Q ^ 2 := by
    rw [OnCurve] at hP hQ
    simp only [mixed, across, along]
    grind
  rw [OnCurve, add]
  field_simp
  linear_combination hcleared

theorem neg_add_pair (h : mixed d ⟨-P.x, P.y⟩ P ^ 2 ≠ 1) (hP : P.OnCurve d) :
    add d ⟨-P.x, P.y⟩ P = ⟨0, 1⟩ := by
  rw [OnCurve] at hP
  ext
  · rw [add, across]
    ring
  · have halong : along ⟨-P.x, P.y⟩ P = 1 - mixed d ⟨-P.x, P.y⟩ P := by
      rw [along, mixed]
      linear_combination hP
    rw [add, halong]
    exact div_self (one_sub_mixed_ne h)

/-- The first coordinate of a sum of three points, cleared of denominators. -/
theorem across_across (hP : P.OnCurve d) (hQ : Q.OnCurve d) (hR : R.OnCurve d) :
    (P.across Q * (1 - mixed d P Q) * R.y + R.x * (P.along Q * (1 + mixed d P Q))) *
        ((1 + mixed d Q R) * (1 - mixed d Q R) + d * P.x * P.y * Q.across R * Q.along R) =
      (P.x * (Q.along R * (1 + mixed d Q R)) + Q.across R * (1 - mixed d Q R) * P.y) *
        ((1 + mixed d P Q) * (1 - mixed d P Q) + d * R.x * R.y * P.across Q * P.along Q) := by
  rw [OnCurve] at hP hQ hR
  simp only [mixed, across, along]
  grind

theorem add_assoc_x (hPQ : mixed d P Q ^ 2 ≠ 1) (hQR : mixed d Q R ^ 2 ≠ 1)
    (hleft : mixed d (add d P Q) R ^ 2 ≠ 1) (hright : mixed d P (add d Q R) ^ 2 ≠ 1)
    (hP : P.OnCurve d) (hQ : Q.OnCurve d) (hR : R.OnCurve d) :
    (add d (add d P Q) R).x = (add d P (add d Q R)).x := by
  have hx := add_x_mul hPQ
  have hy := add_y_mul hPQ
  have hx' := add_x_mul hQR
  have hy' := add_y_mul hQR
  have hfactor : (1 + mixed d P Q) * (1 - mixed d P Q) *
      ((1 + mixed d Q R) * (1 - mixed d Q R)) ≠ 0 :=
    mul_ne_zero (mul_ne_zero (one_add_mixed_ne hPQ) (one_sub_mixed_ne hPQ))
      (mul_ne_zero (one_add_mixed_ne hQR) (one_sub_mixed_ne hQR))
  have hmixed : d * R.x * R.y * P.across Q * P.along Q =
      mixed d (add d P Q) R * ((1 + mixed d P Q) * (1 - mixed d P Q)) := by
    rw [← hx, ← hy]
    simp only [mixed]
    ring
  have hmixed' : d * P.x * P.y * Q.across R * Q.along R =
      mixed d P (add d Q R) * ((1 + mixed d Q R) * (1 - mixed d Q R)) := by
    rw [← hx', ← hy']
    simp only [mixed]
    ring
  have hcleared := across_across hP hQ hR
  rw [hmixed, hmixed', ← hx, ← hy, ← hx', ← hy'] at hcleared
  rw [add_x, add_x, div_eq_div_iff (one_add_mixed_ne hleft) (one_add_mixed_ne hright)]
  apply mul_right_cancel₀ hfactor
  rw [across, across]
  linear_combination hcleared

/-! ## Points turned -/

section
variable {i : K} (hi : i ^ 2 = -1)

/-- A point turned by the square root of minus one, which puts its coordinates in each other's
place. -/
def turn (i : K) (P : Pair K) : Pair K := ⟨i * P.y, i * P.x⟩

include hi

theorem turn_onCurve (hP : P.OnCurve d) : (P.turn i).OnCurve d := by
  rw [OnCurve] at hP ⊢
  rw [turn]
  linear_combination hP + (P.x ^ 2 - P.y ^ 2 - d * P.x ^ 2 * P.y ^ 2 * (i ^ 2 - 1)) * hi

theorem mixed_turn (P Q : Pair K) : mixed d (P.turn i) Q = -mixed d P Q := by
  rw [mixed, mixed, turn]
  linear_combination d * P.x * P.y * Q.x * Q.y * hi

theorem add_turn (P Q : Pair K) : add d (P.turn i) Q = (add d P Q).turn i := by
  have hacross : (P.turn i).across Q = i * P.along Q := by
    rw [across, along, turn]
    ring
  have halong : (P.turn i).along Q = i * P.across Q := by
    rw [along, across, turn]
    ring
  rw [add, hacross, halong, mixed_turn hi, sub_neg_eq_add, ← sub_eq_add_neg, mul_div_assoc,
    mul_div_assoc]
  rfl

theorem add_assoc_pair (hPQ : mixed d P Q ^ 2 ≠ 1) (hQR : mixed d Q R ^ 2 ≠ 1)
    (hleft : mixed d (add d P Q) R ^ 2 ≠ 1) (hright : mixed d P (add d Q R) ^ 2 ≠ 1)
    (hP : P.OnCurve d) (hQ : Q.OnCurve d) (hR : R.OnCurve d) :
    add d (add d P Q) R = add d P (add d Q R) := by
  refine Pair.ext (add_assoc_x hPQ hQR hleft hright hP hQ hR) ?_
  -- The second coordinates of the sums are the first ones of the sums from the point turned.
  have hturned : (add d (add d (P.turn i) Q) R).x = (add d (P.turn i) (add d Q R)).x := by
    refine add_assoc_x ?_ hQR ?_ ?_ (turn_onCurve hi hP) hQ hR
    · rwa [mixed_turn hi, neg_sq]
    · rwa [add_turn hi, mixed_turn hi, neg_sq]
    · rwa [mixed_turn hi, neg_sq]
  rw [add_turn hi, add_turn hi, add_turn hi] at hturned
  have hne : i ≠ 0 := by
    rintro rfl
    simp at hi
  exact mul_left_cancel₀ hne hturned

end

end Pair

end HbarKit.Edwards
