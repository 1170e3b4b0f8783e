/-!
# Arithmetic modulo a prime

Residues are natural numbers below the modulus. Powers are taken by squaring, and an inverse is a
power when the modulus is prime.
-/
namespace HbarKit.Modular

/-- `base ^ exponent` modulo `m` for an exponent below `2 ^ bits`. -/
def power (m : Nat) : (bits base exponent : Nat) → Nat
  | 0, _, _ => 1 % m
  | bits + 1, base, exponent =>
    let rest := power m bits (base * base % m) (exponent / 2)
    if exponent % 2 = 1 then base * rest % m else rest

/-- The residue that gives zero together with another. -/
def negate (m a : Nat) : Nat := (m - a % m) % m

def subtract (m a b : Nat) : Nat := (a + (m - b % m)) % m

/-- The inverse of a residue modulo a prime below `2 ^ 256`; zero for zero. -/
def inverse (m a : Nat) : Nat := power m 256 a (m - 2)

theorem pow_mul_self (base n : Nat) : Nat.pow (base * base) n = Nat.pow base (2 * n) := by
  induction n with
  | zero => rfl
  | succ n ih =>
    show Nat.pow (base * base) n * (base * base) = Nat.pow base (2 * n) * base * base
    rw [ih, Nat.mul_assoc]

/-- Squaring gives the power that the exponent asks for. -/
theorem power_eq {m bits base exponent : Nat} (h : exponent < Nat.pow 2 bits) :
    power m bits base exponent = Nat.pow base exponent % m := by
  induction bits generalizing base exponent with
  | zero =>
    have h0 : exponent = 0 := Nat.lt_one_iff.mp h
    subst h0
    rfl
  | succ bits ih =>
    have h' : exponent < Nat.pow 2 bits * 2 := h
    have hhalf : exponent / 2 < Nat.pow 2 bits := by omega
    have hmod : Nat.pow (base * base % m) (exponent / 2) % m =
        Nat.pow (base * base) (exponent / 2) % m := (Nat.pow_mod _ _ _).symm
    simp only [power, ih hhalf, hmod, pow_mul_self]
    split
    · next hodd =>
      have he : exponent = 2 * (exponent / 2) + 1 := by omega
      have hstep : Nat.pow base exponent = base * Nat.pow base (2 * (exponent / 2)) := by
        conv => lhs; rw [he]
        exact Nat.mul_comm _ _
      rw [hstep, Nat.mul_mod_mod]
    · next heven =>
      have he : 2 * (exponent / 2) = exponent := by omega
      rw [he]

end HbarKit.Modular
