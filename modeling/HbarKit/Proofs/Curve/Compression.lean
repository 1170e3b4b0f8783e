import HbarKit.Proofs.Bytes.Numbers
import HbarKit.Proofs.Curve.Prime

/-!
# Compressed points

Of the two points with one first coordinate, the parity of the second coordinate tells which is
meant, so a point of the curve is found again from its compressed form. Every written form that is
read stands for a point of the curve.
-/
namespace HbarKit

namespace Modular

theorem negate_of_lt {m a : Nat} (hpos : 0 < a) (h : a < m) : negate m a = m - a := by
  rw [negate, Nat.mod_eq_of_lt h, Nat.mod_eq_of_lt (by omega)]

theorem negate_lt {m : Nat} (hpos : 0 < m) (a : Nat) : negate m a < m := Nat.mod_lt _ hpos

/-- Opposite residues have the same square. -/
theorem negate_mul_negate {m a : Nat} (h : a < m) : negate m a * negate m a % m = a * a % m := by
  have hnegate : (negate m a : ZMod m) = -a := by
    rw [negate, ZMod.natCast_mod, Nat.mod_eq_of_lt h, Nat.cast_sub h.le, ZMod.natCast_self,
      zero_sub]
  apply (ZMod.natCast_eq_natCast_iff' _ _ m).mp
  rw [Nat.cast_mul, Nat.cast_mul, hnegate, neg_mul_neg]

end Modular

namespace Secp256k1

/-- The root that is tried for a square. -/
def root (s : Nat) : Nat := Modular.power fieldOrder 256 s ((fieldOrder + 1) / 4)

theorem root_lt (s : Nat) : root s < fieldOrder := by
  rw [root, Modular.power_eq (by decide)]
  exact Nat.mod_lt _ (by decide)

/-- A square has the root that is tried. -/
theorem root_mul_root {s y : Nat} (h : y * y % fieldOrder = s) :
    root s * root s % fieldOrder = s := by
  have : Fact fieldOrder.Prime := ⟨prime_fieldOrder⟩
  have hlt : s < fieldOrder := h ▸ Nat.mod_lt _ (by decide)
  have hs : (s : ZMod fieldOrder) = (y : ZMod fieldOrder) * y := by
    rw [← h, ZMod.natCast_mod, Nat.cast_mul]
  have hroot : (root s : ZMod fieldOrder) = (s : ZMod fieldOrder) ^ ((fieldOrder + 1) / 4) :=
    Modular.natCast_power (by decide)
  have hexponent : (fieldOrder + 1) / 4 + (fieldOrder + 1) / 4 +
      ((fieldOrder + 1) / 4 + (fieldOrder + 1) / 4) = fieldOrder + 1 := by decide
  have hsquare : (root s : ZMod fieldOrder) * root s = s := by
    calc (root s : ZMod fieldOrder) * root s
        = (y : ZMod fieldOrder) ^ (fieldOrder + 1) := by
          rw [hroot, hs, ← pow_add, mul_pow, ← pow_add, hexponent]
      _ = (y : ZMod fieldOrder) * y := by rw [pow_succ, ZMod.pow_card]
      _ = s := hs.symm
  rw [← Nat.cast_mul, ZMod.natCast_eq_natCast_iff', Nat.mod_eq_of_lt hlt] at hsquare
  exact hsquare

namespace AffinePoint

theorem onCurve_iff {p : AffinePoint} : p.onCurve = true ↔
    p.x < fieldOrder ∧ p.y < fieldOrder ∧ p.y * p.y % fieldOrder = rightSide p.x := by
  simp [onCurve, and_assoc]

theorem ofParity?_eq_some_iff {x parity : Nat} {p : AffinePoint} : ofParity? x parity = some p ↔
    (x < fieldOrder ∧ root (rightSide x) * root (rightSide x) % fieldOrder = rightSide x) ∧
      p = ⟨x, if root (rightSide x) % 2 = parity then root (rightSide x)
        else Modular.negate fieldOrder (root (rightSide x))⟩ := by
  change (if _ then some _ else none) = some p ↔ _
  rw [Option.ite_none_right_eq_some, Option.some.injEq]
  exact and_congr_right fun _ => eq_comm

/-- What the parity selects is a root as well. -/
theorem onCurve_of_ofParity? {x parity : Nat} {p : AffinePoint} (h : ofParity? x parity = some p) :
    p.onCurve = true := by
  obtain ⟨⟨hx, hroot⟩, rfl⟩ := ofParity?_eq_some_iff.mp h
  have hlt := root_lt (rightSide x)
  apply onCurve_iff.mpr
  split
  · exact ⟨hx, hlt, hroot⟩
  · exact ⟨hx, Modular.negate_lt (by omega) _, (Modular.negate_mul_negate hlt).trans hroot⟩

/-- On the curve there is one second coordinate of each parity, or only zero. -/
theorem ofParity?_of_onCurve {p : AffinePoint} (h : p.onCurve = true) :
    ∃ y, ofParity? p.x (p.y % 2) = some ⟨p.x, y⟩ ∧ y % 2 = p.y % 2 := by
  obtain ⟨hx, hy, hright⟩ := onCurve_iff.mp h
  have hroot := root_mul_root hright
  have hlt := root_lt (rightSide p.x)
  refine ⟨_, ofParity?_eq_some_iff.mpr ⟨⟨hx, hroot⟩, rfl⟩, ?_⟩
  split
  · assumption
  · rename_i hparity
    have hodd : fieldOrder % 2 = 1 := by decide
    have hpos : 0 < root (rightSide p.x) := by
      -- Were the root zero, so would be the second coordinate, and the parities would agree.
      by_contra hzero
      have hroot0 : root (rightSide p.x) = 0 := by omega
      rw [hroot0] at hroot hparity
      have hdvd : fieldOrder ∣ p.y * p.y := by
        apply Nat.dvd_of_mod_eq_zero
        rw [hright, ← hroot]
        exact Nat.zero_mod _
      obtain hdvd | hdvd := (Nat.Prime.dvd_mul prime_fieldOrder).mp hdvd
      all_goals
        have hy0 := Nat.eq_zero_of_dvd_of_lt hdvd hy
        rw [hy0] at hparity
        exact hparity rfl
    rw [Modular.negate_of_lt hpos hlt]
    omega

/-! ## Written forms -/

/-- What is read is a point of the curve. -/
theorem onCurve_of_decode? {b : Bytes} {p : AffinePoint} (h : decode? b = some p) :
    p.onCurve = true := by
  unfold decode? at h
  split at h
  · cases h
  · split at h
    · split at h
      · exact onCurve_of_ofParity? h
      · split at h
        · exact onCurve_of_ofParity? h
        · cases h
    · split at h
      · obtain ⟨hcurve, hp⟩ := Option.ite_none_right_eq_some.mp h
        cases hp
        exact hcurve
      · cases h

/-- A point of the curve is found again from its compressed form, at least as far as that form
goes. -/
theorem decode?_compressed {p : AffinePoint} (h : p.onCurve = true) :
    ∃ q, decode? p.compressed.bytes = some q ∧ q.compressed = p.compressed := by
  obtain ⟨y, hread, hparity⟩ := ofParity?_of_onCurve h
  refine ⟨⟨p.x, y⟩, ?_, by simp [compressed, hparity]⟩
  have hx : p.x < 256 ^ 32 := lt_trans (onCurve_iff.mp h).1 (by decide)
  have hnumber : Bytes.toNatBE (Bytes.ofNatBE 32 p.x) = p.x := by
    rw [Bytes.toNatBE_ofNatBE, Nat.mod_eq_of_lt hx]
  by_cases hodd : p.y % 2 = 1
  · rw [hodd] at hread
    simp [compressed, decode?, hodd, hnumber, hread]
  · rw [show p.y % 2 = 0 by omega] at hread
    simp [compressed, decode?, hodd, hnumber, hread]

end AffinePoint

end Secp256k1

end HbarKit
