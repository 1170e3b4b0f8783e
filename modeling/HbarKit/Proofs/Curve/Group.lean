import HbarKit.Curve.Secp256k1
import Mathlib.AlgebraicGeometry.EllipticCurve.Affine.Point
import Mathlib.Tactic

/-!
# Sums of points on a curve

The formula for sums in projective coordinates, over any field, gives the sums of the group of the
curve `y² = x³ + 7`. It has no exceptions as long as the curve has no point of order two, that is
none with zero as its second coordinate.
-/
namespace HbarKit.Secp256k1

open WeierstrassCurve

/-- The curve over a field. -/
def curve (K : Type) [Field K] : Affine K := ⟨0, 0, 0, 0, 7⟩

/-- Projective coordinates in a field. -/
@[ext]
structure Triple (K : Type) where
  (x y z : K)

namespace Triple

variable {K : Type} [Field K]

def scale (c : K) (t : Triple K) : Triple K := ⟨t.x * c, t.y * c, t.z * c⟩

/-- The sum of two points as `Point.add` computes it. -/
def add (t u : Triple K) : Triple K :=
  let xx := t.x * u.x
  let yy := t.y * u.y
  let zz := t.z * u.z
  let xy := t.x * u.y + t.y * u.x
  let yz := t.y * u.z + t.z * u.y
  let xz := t.x * u.z + t.z * u.x
  ⟨xy * (yy - 21 * zz) - yz * (21 * xz), (yy + 21 * zz) * (yy - 21 * zz) + 3 * xx * (21 * xz),
    yz * (yy + 21 * zz) + 3 * xx * xy⟩

theorem add_swap (t u : Triple K) : t.add u = u.add t := by
  ext <;> simp only [add] <;> ring

theorem scale_add_scale (t u : Triple K) (c d : K) :
    (t.scale c).add (u.scale d) = (t.add u).scale (c ^ 2 * d ^ 2) := by
  ext <;> simp only [add, scale] <;> ring

theorem scale_scale (t : Triple K) (c d : K) : (t.scale c).scale d = t.scale (c * d) := by
  ext <;> simp only [scale] <;> ring

/-! ## The formula at points with affine coordinates -/

section
variable {x y x₁ y₁ x₂ y₂ l m : K}

theorem zero_add_affine : add ⟨0, 1, 0⟩ ⟨x, y, 1⟩ = scale y ⟨x, y, 1⟩ := by
  ext <;> simp only [add, scale] <;> ring

/-- The sum along a chord of slope `l`. The factor is a multiple of the second coordinate of the
difference of the points, the chord of which has the slope `m`. -/
theorem add_chord (h₁ : y₁ ^ 2 = x₁ ^ 3 + 7) (h₂ : y₂ ^ 2 = x₂ ^ 3 + 7) (hx : x₁ - x₂ ≠ 0)
    (hl : l * (x₁ - x₂) = y₁ - y₂) (hm : m * (x₁ - x₂) = y₁ + y₂) :
    add ⟨x₁, y₁, 1⟩ ⟨x₂, y₂, 1⟩ =
      scale ((m * (x₁ - (m ^ 2 - x₁ - x₂)) - y₁) * (x₂ - x₁) ^ 3)
        ⟨l ^ 2 - x₁ - x₂, l * (x₁ - (l ^ 2 - x₁ - x₂)) - y₁, 1⟩ := by
  have hz : (y₁ + y₂) * (y₁ * y₂ + 21) + 3 * (x₁ * x₂) * (x₁ * y₂ + y₁ * x₂) =
      (m * (x₁ - (m ^ 2 - x₁ - x₂)) - y₁) * (x₂ - x₁) ^ 3 := by
    grind
  rw [← hz]
  ext <;> simp only [add, scale] <;> grind

/-- The sum along a tangent of slope `l`. -/
theorem add_tangent (h : y ^ 2 = x ^ 3 + 7) (hl : l * (2 * y) = 3 * x ^ 2) :
    add ⟨x, y, 1⟩ ⟨x, y, 1⟩ =
      scale ((2 * y) ^ 3) ⟨l ^ 2 - x - x, l * (x - (l ^ 2 - x - x)) - y, 1⟩ := by
  ext <;> simp only [add, scale] <;> grind

/-- The sum of opposite points. The factor is a multiple of the second coordinate of the double of
the point, the tangent of which has the slope `l`. -/
theorem add_opposite (h : y ^ 2 = x ^ 3 + 7) (hl : l * (2 * y) = 3 * x ^ 2) :
    add ⟨x, y, 1⟩ ⟨x, -y, 1⟩ =
      scale ((l * (x - (l ^ 2 - x - x)) - y) * (2 * y) ^ 3) ⟨0, 1, 0⟩ := by
  ext <;> simp only [add, scale] <;> grind

end

/-! ## Points of the curve -/

/-- The coordinates of a point of the curve. -/
def coordinates : (curve K).Point → Triple K
  | .zero => ⟨0, 1, 0⟩
  | .some x y _ => ⟨x, y, 1⟩

/-- A triple stands for the point whose coordinates it is a multiple of. -/
def Denotes (t : Triple K) (P : (curve K).Point) : Prop := ∃ c ≠ 0, t = (coordinates P).scale c

theorem equation_iff {x y : K} : (curve K).Equation x y ↔ y ^ 2 = x ^ 3 + 7 := by
  simp [Affine.equation_iff, curve]

@[simp] theorem negY_curve (x y : K) : (curve K).negY x y = -y := by simp [Affine.negY, curve]

@[simp] theorem addX_curve (x₁ x₂ l : K) : (curve K).addX x₁ x₂ l = l ^ 2 - x₁ - x₂ := by
  simp [Affine.addX, curve]

@[simp] theorem addY_curve (x₁ x₂ y₁ l : K) :
    (curve K).addY x₁ x₂ y₁ l = l * (x₁ - (l ^ 2 - x₁ - x₂)) - y₁ := by
  simp only [Affine.addY, Affine.negAddY, addX_curve, negY_curve]
  ring

section
variable {x y x₁ y₁ x₂ y₂ : K} (hroot : ∀ x : K, x ^ 3 + 7 ≠ 0)
include hroot

theorem y_ne_zero (h : (curve K).Nonsingular x y) : y ≠ 0 := by
  rintro rfl
  have heq := equation_iff.mp h.1
  exact hroot x (by rw [← heq]; ring)

variable [DecidableEq K]

theorem zero_add_denotes (P : (curve K).Point) :
    ((coordinates 0).add (coordinates P)).Denotes (0 + P) := by
  rw [zero_add]
  cases P with
  | zero => exact ⟨1, one_ne_zero, by ext <;> simp [coordinates, add, scale]⟩
  | some x y h => exact ⟨y, y_ne_zero hroot h, zero_add_affine⟩

theorem add_denotes_of_X_ne (h₁ : (curve K).Nonsingular x₁ y₁) (h₂ : (curve K).Nonsingular x₂ y₂)
    (hx : x₁ ≠ x₂) :
    (add ⟨x₁, y₁, 1⟩ ⟨x₂, y₂, 1⟩).Denotes (.some x₁ y₁ h₁ + .some x₂ y₂ h₂) := by
  have hsub : x₁ - x₂ ≠ 0 := sub_ne_zero.mpr hx
  have hslope : ∀ y₂, (curve K).slope x₁ x₂ y₁ y₂ * (x₁ - x₂) = y₁ - y₂ := fun y₂ => by
    rw [Affine.slope_of_X_ne hx, div_mul_cancel₀ _ hsub]
  have hneg : (curve K).Nonsingular x₂ (-y₂) := by
    have hneg := (Affine.nonsingular_neg x₂ y₂).mpr h₂
    rwa [negY_curve] at hneg
  have hy := y_ne_zero hroot (Affine.nonsingular_add h₁ hneg fun h => hx h.1)
  rw [addY_curve] at hy
  have hsum := add_chord (equation_iff.mp h₁.1) (equation_iff.mp h₂.1) hsub (hslope y₂)
    ((hslope (-y₂)).trans (sub_neg_eq_add _ _))
  refine ⟨_, mul_ne_zero hy (pow_ne_zero 3 (sub_ne_zero.mpr hx.symm)), ?_⟩
  rw [hsum, Affine.Point.add_of_X_ne hx, coordinates, addX_curve, addY_curve]

variable (htwo : (2 : K) ≠ 0)
include htwo

/-- The tangent at a point. -/
theorem slope_mul_two (h : (curve K).Nonsingular x y) :
    (curve K).slope x x y y * (2 * y) = 3 * x ^ 2 ∧ y ≠ -y := by
  have hy := mul_ne_zero htwo (y_ne_zero hroot h)
  have hne : y ≠ -y := fun h => hy (by linear_combination h)
  refine ⟨?_, hne⟩
  rw [Affine.slope_of_Y_ne rfl (by rwa [negY_curve]), negY_curve, sub_neg_eq_add, ← two_mul,
    div_mul_cancel₀ _ hy]
  simp [curve]

theorem add_denotes_of_X_eq (h₁ : (curve K).Nonsingular x y₁) (h₂ : (curve K).Nonsingular x y₂) :
    (add ⟨x, y₁, 1⟩ ⟨x, y₂, 1⟩).Denotes (.some x y₁ h₁ + .some x y₂ h₂) := by
  have he := equation_iff.mp h₁.1
  obtain ⟨hslope, hne⟩ := slope_mul_two hroot htwo h₁
  have hy := mul_ne_zero htwo (y_ne_zero hroot h₁)
  have hdouble : ¬(x = x ∧ y₁ = (curve K).negY x y₁) := fun h =>
    hne (h.2.trans (negY_curve x y₁))
  obtain rfl | hopposite := Affine.Y_eq_of_X_eq h₁.1 h₂.1 rfl
  · refine ⟨_, pow_ne_zero 3 hy, ?_⟩
    rw [add_tangent he hslope, Affine.Point.add_some hdouble, coordinates, addX_curve, addY_curve]
  · have hy₂ : y₂ = -y₁ := by rw [hopposite, negY_curve, neg_neg]
    have hpoint := y_ne_zero hroot (Affine.nonsingular_add h₁ h₁ hdouble)
    rw [addY_curve] at hpoint
    refine ⟨_, mul_ne_zero hpoint (pow_ne_zero 3 hy), ?_⟩
    rw [Affine.Point.add_of_Y_eq rfl hopposite]
    subst hy₂
    exact add_opposite he hslope

/-- The formula gives the sums of the group. -/
theorem Denotes.add {t u : Triple K} {P Q : (curve K).Point} (ht : t.Denotes P)
    (hu : u.Denotes Q) : (t.add u).Denotes (P + Q) := by
  obtain ⟨c, hc, rfl⟩ := ht
  obtain ⟨d, hd, rfl⟩ := hu
  have hsum : ((coordinates P).add (coordinates Q)).Denotes (P + Q) := by
    cases P with
    | zero => exact zero_add_denotes hroot Q
    | some x₁ y₁ h₁ =>
      cases Q with
      | zero =>
        rw [add_swap, add_comm]
        exact zero_add_denotes hroot _
      | some x₂ y₂ h₂ =>
        by_cases hx : x₁ = x₂
        · subst hx
          exact add_denotes_of_X_eq hroot htwo h₁ h₂
        · exact add_denotes_of_X_ne hroot h₁ h₂ hx
  obtain ⟨e, he, hsum⟩ := hsum
  refine ⟨e * (c ^ 2 * d ^ 2), by positivity, ?_⟩
  rw [scale_add_scale, hsum, scale_scale]

end

end Triple

end HbarKit.Secp256k1
