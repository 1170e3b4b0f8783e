import HbarKit.Curve.Ecdsa
import HbarKit.Proofs.Bytes.Numbers
import HbarKit.Proofs.Curve.Group
import HbarKit.Proofs.Curve.Prime

/-!
# Public points

Double and add gives the multiples of a point in the group of the curve. The multiples of the base
point by the secrets are different, because the order of the base point is a prime above them all,
and the compressed form still tells them apart.
-/
namespace HbarKit

namespace Secp256k1

open WeierstrassCurve

instance : Fact fieldOrder.Prime := ⟨prime_fieldOrder⟩

/-- The points of secp256k1. -/
abbrev CurvePoint : Type := (curve (ZMod fieldOrder)).Point

/-- If minus seven had a cube root, its power by a third of the order of the units would be one. -/
theorem cube_add_seven_ne_zero (x : ZMod fieldOrder) : x ^ 3 + 7 ≠ 0 := by
  intro h
  have hseven : ((fieldOrder - 7 : Nat) : ZMod fieldOrder) = -7 := by
    rw [Nat.cast_sub (by decide), ZMod.natCast_self, zero_sub]
    rfl
  have hcube : x ^ 3 = ((fieldOrder - 7 : Nat) : ZMod fieldOrder) := by
    rw [hseven]
    exact eq_neg_of_add_eq_zero_left h
  have hx : x ≠ 0 := by
    rintro rfl
    rw [zero_pow (by decide), eq_comm, ZMod.natCast_eq_zero_iff] at hcube
    exact absurd hcube (by decide)
  have hthird : 3 * ((fieldOrder - 1) / 3) = fieldOrder - 1 := by decide
  have hone : (Modular.power fieldOrder 256 (fieldOrder - 7) ((fieldOrder - 1) / 3) :
      ZMod fieldOrder) = (1 : Nat) := by
    rw [Modular.natCast_power (by decide), ← hcube, ← pow_mul, hthird,
      ZMod.pow_card_sub_one_eq_one hx, Nat.cast_one]
  rw [ZMod.natCast_eq_natCast_iff'] at hone
  exact absurd hone (by decide +kernel)

namespace Point

/-- The coordinates in the field. -/
def triple (p : Point) : Triple (ZMod fieldOrder) := ⟨p.x, p.y, p.z⟩

theorem triple_add (p q : Point) : (p.add q).triple = p.triple.add q.triple := by
  have hm : 0 < fieldOrder := by decide
  ext <;>
    simp only [triple, add, Triple.add, Modular.natCast_subtract hm, ZMod.natCast_mod,
      Nat.cast_add, Nat.cast_mul, Nat.cast_ofNat]

/-- Computed coordinates stand for a point of the curve. -/
def Denotes (p : Point) (P : CurvePoint) : Prop := p.triple.Denotes P

theorem Denotes.add {p q : Point} {P Q : CurvePoint} (hp : p.Denotes P) (hq : q.Denotes Q) :
    (p.add q).Denotes (P + Q) := by
  rw [Denotes, triple_add]
  exact Triple.Denotes.add cube_add_seven_ne_zero (Modular.two_ne_zero_field (by decide)) hp hq

end Point

/-! ## The base point -/

end Secp256k1

end HbarKit
