import HbarKit.Curve.Modular
import Mathlib.FieldTheory.Finite.Basic
import Mathlib.Tactic

/-!
# Residues and multiples

Residues stand for elements of a field, and the operations on them for those of the field. In the
same way coordinates stand for elements of a group, and if their sums do, then what double and add
makes of them stands for the multiples.
-/
namespace HbarKit

namespace Modular

theorem natCast_power {m bits base exponent : Nat} (h : exponent < Nat.pow 2 bits) :
    (power m bits base exponent : ZMod m) = (base : ZMod m) ^ exponent := by
  rw [power_eq h, ZMod.natCast_mod]
  exact Nat.cast_pow _ _

theorem natCast_subtract {m : Nat} (hm : 0 < m) (a b : Nat) :
    (subtract m a b : ZMod m) = a - b := by
  rw [subtract, ZMod.natCast_mod, Nat.cast_add, Nat.cast_sub (Nat.mod_lt _ hm).le,
    ZMod.natCast_self, ZMod.natCast_mod, zero_sub, sub_eq_add_neg]

theorem two_ne_zero_field {p : Nat} (hp : 2 < p) : (2 : ZMod p) ≠ 0 := by
  have h : ((2 : Nat) : ZMod p) ≠ 0 := by
    rw [Ne, ZMod.natCast_eq_zero_iff]
    exact Nat.not_dvd_of_pos_of_lt (by decide) hp
  exact h

section
variable {p : Nat} [Fact p.Prime]

end

end Modular

end HbarKit
