import HbarKit.Bytes
import HbarKit.Curve.Modular

/-!
# The twisted Edwards curve of Ed25519

The points satisfy `-x² + y² = 1 + d x² y²` over the field of `2²⁵⁵ - 19` elements. They are kept
in extended coordinates, in which one formula without exceptions adds any two of them. The written
form of a point is the number `y` with the parity of `x` in the top bit.
-/
namespace HbarKit.Edwards

def fieldOrder : Nat := Nat.pow 2 255 - 19

def groupOrder : Nat := Nat.pow 2 252 + 27742317777372353535851937790883648493

/-- The coefficient of the curve, -121665/121666. -/
def coefficient : Nat :=
  37095705934669439343138083508754565189542113879843219016388785533085940283555

def rootOfMinusOne : Nat :=
  19681161376707505956807079304988542015446066515923890162744021073123829784752

/-- A point with `x = X / Z`, `y = Y / Z` and `x y = T / Z`. -/
structure Point where
  (x y z t : Nat)

namespace Point

def zero : Point := ⟨0, 1, 1, 0⟩

def ofAffine (x y : Nat) : Point := ⟨x, y, 1, x * y % fieldOrder⟩

/-- The base point, whose second coordinate is 4/5. -/
def base : Point :=
  ofAffine 15112221349535400772501151409588531511454012693041857206046113283949847762202
    46316835694926478169428394003475163141307993866256225615783033603165251855960

def add (p q : Point) : Point :=
  let m := fieldOrder
  let a := Modular.subtract m p.y p.x * Modular.subtract m q.y q.x % m
  let b := (p.y + p.x) * (q.y + q.x) % m
  let c := p.t * (2 * coefficient) % m * q.t % m
  let d := 2 * p.z * q.z % m
  let e := Modular.subtract m b a
  let f := Modular.subtract m d c
  let g := d + c
  let h := b + a
  ⟨e * f % m, g * h % m, f * g % m, e * h % m⟩

def negate (p : Point) : Point :=
  ⟨Modular.negate fieldOrder p.x, p.y, p.z, Modular.negate fieldOrder p.t⟩

/-- A multiple of a point by a factor below `2 ^ bits`. -/
def multiply : (bits factor : Nat) → Point → Point
  | 0, _, _ => zero
  | bits + 1, factor, p =>
    let rest := multiply bits (factor / 2) (p.add p)
    if factor % 2 = 1 then p.add rest else rest

def encode (p : Point) : Octets 32 :=
  let w := Modular.inverse fieldOrder p.z
  let x := p.x * w % fieldOrder
  let y := p.y * w % fieldOrder
  Octets.ofNatLE 32 (y + x % 2 * Nat.pow 2 255)

/-- A square root of `u / v` that is even, if there is one. -/
def evenRootOfRatio? (u v : Nat) : Option Nat :=
  let m := fieldOrder
  let v3 := v * v % m * v % m
  let v7 := v3 * v3 % m * v % m
  let r := u * v3 % m * Modular.power m 256 (u * v7 % m) ((m - 5) / 8) % m
  let check := v * r % m * r % m
  let even (r : Nat) : Nat := if r % 2 = 1 then Modular.negate m r else r
  if check = u then some (even r)
  else if check = Modular.negate m u then some (even (r * rootOfMinusOne % m))
  else none

/-- The point that 32 bytes stand for. The number `y` is taken modulo the size of the field, and
the parity of a first coordinate that is zero is of no account. -/
def decode? (b : Octets 32) : Option Point := do
  let m := fieldOrder
  let n := Bytes.toNatLE b.bytes
  let y := n % Nat.pow 2 255 % m
  let yy := y * y % m
  let x ← evenRootOfRatio? (Modular.subtract m yy 1) ((coefficient * yy + 1) % m)
  return ofAffine (if n / Nat.pow 2 255 % 2 = 1 then Modular.negate m x else x) y

end Point

end HbarKit.Edwards
