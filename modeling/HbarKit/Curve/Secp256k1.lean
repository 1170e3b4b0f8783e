import HbarKit.Bytes
import HbarKit.Curve.Modular

/-!
# The curve secp256k1

The points satisfy `y² = x³ + 7` over a field of nearly `2²⁵⁶` elements, and together with a point
at infinity they form a group of prime order. Sums are computed in projective coordinates by one
formula without exceptions. The written forms of a point are both coordinates, or the first one
with the parity of the second, or the first one alone, which stands for the even second.
-/
namespace HbarKit.Secp256k1

def fieldOrder : Nat := Nat.pow 2 256 - Nat.pow 2 32 - 977

def groupOrder : Nat :=
  0xfffffffffffffffffffffffffffffffebaaedce6af48a03bbfd25e8cd0364141

/-- A point other than the one at infinity. -/
structure AffinePoint where
  (x y : Nat)
  deriving DecidableEq

/-- A point with affine coordinates `X / Z` and `Y / Z`, at infinity when `Z` is zero. -/
structure Point where
  (x y z : Nat)

namespace Point

def zero : Point := ⟨0, 1, 0⟩

def ofAffine (p : AffinePoint) : Point := ⟨p.x, p.y, 1⟩

def toAffine? (p : Point) : Option AffinePoint :=
  if p.z = 0 then none
  else
    let w := Modular.inverse fieldOrder p.z
    some ⟨p.x * w % fieldOrder, p.y * w % fieldOrder⟩

def base : Point :=
  ofAffine ⟨0x79be667ef9dcbbac55a06295ce870b07029bfcdb2dce28d959f2815b16f81798,
    0x483ada7726a3c4655da4fbfc0e1108a8fd17b448a68554199c47d08ffb10d4b8⟩

def add (p q : Point) : Point :=
  let m := fieldOrder
  let xx := p.x * q.x % m
  let yy := p.y * q.y % m
  let zz := p.z * q.z % m
  let xy := (p.x * q.y + p.y * q.x) % m
  let yz := (p.y * q.z + p.z * q.y) % m
  let xz := (p.x * q.z + p.z * q.x) % m
  let minus := Modular.subtract m yy (21 * zz)
  let plus := (yy + 21 * zz) % m
  let cross := 21 * xz % m
  ⟨Modular.subtract m (xy * minus) (yz * cross), (plus * minus + 3 * xx * cross) % m,
    (yz * plus + 3 * xx * xy) % m⟩

def multiply : (bits factor : Nat) → Point → Point
  | 0, _, _ => zero
  | bits + 1, factor, p =>
    let rest := multiply bits (factor / 2) (p.add p)
    if factor % 2 = 1 then p.add rest else rest

end Point

namespace AffinePoint

def rightSide (x : Nat) : Nat := (x * x % fieldOrder * x + 7) % fieldOrder

def onCurve (p : AffinePoint) : Bool :=
  p.x < fieldOrder && p.y < fieldOrder && p.y * p.y % fieldOrder == rightSide p.x

/-- The point with a first coordinate and the parity of the second, if there is one. -/
def ofParity? (x parity : Nat) : Option AffinePoint :=
  let y := Modular.power fieldOrder 256 (rightSide x) ((fieldOrder + 1) / 4)
  if x < fieldOrder ∧ y * y % fieldOrder = rightSide x then
    some ⟨x, if y % 2 = parity then y else Modular.negate fieldOrder y⟩
  else none

/-- The first coordinate behind the number two or three, which tells the parity of the second. -/
def compressed (p : AffinePoint) : Octets 33 :=
  ⟨(if p.y % 2 = 1 then 0x03 else 0x02) :: Bytes.ofNatBE 32 p.x, by simp⟩

def uncompressed (p : AffinePoint) : Octets 65 :=
  ⟨0x04 :: (Bytes.ofNatBE 32 p.x ++ Bytes.ofNatBE 32 p.y), by simp⟩

def decode? : Bytes → Option AffinePoint
  | [] => none
  | tag :: rest =>
    if rest.length = 32 then
      if tag = 0x02 ∨ tag = 0x05 then ofParity? (Bytes.toNatBE rest) 0
      else if tag = 0x03 then ofParity? (Bytes.toNatBE rest) 1
      else none
    else if rest.length = 64 ∧ tag = 0x04 then
      let p : AffinePoint := ⟨Bytes.toNatBE (rest.take 32), Bytes.toNatBE (rest.drop 32)⟩
      if p.onCurve then some p else none
    else none

end AffinePoint

end HbarKit.Secp256k1
