import HbarKit.Bytes
import HbarKit.Text.Decimal
import HbarKit.Text.Split

/-!
# Object identifiers

An identifier is kept as its content bytes. Its arcs are numbers in base 128, where the first
number holds the first two arcs; an identifier is shown as its arcs with points between them.
-/
namespace HbarKit.Der

abbrev Oid := Bytes

namespace Oid

/-- The numbers in base 128 that a byte string holds. The state is the number so far and how many
bytes it has. A fifth byte is the last and below sixteen, and numbers are kept modulo `2³²`. -/
def arcsFrom (value count : Nat) : Bytes → Option (List Nat)
  | [] => if count = 0 then some [] else none
  | b :: rest =>
    let value := (value * 128 + b.toNat % 128) % UInt32.size
    if count = 4 ∧ 0x10 ≤ b then none
    else if 0x80 ≤ b then arcsFrom value (count + 1) rest
    else (arcsFrom 0 0 rest).map (value :: ·)

def maxLength : Nat := 39

/-- The arcs of an identifier, which has three bytes or more. -/
def arcs? (b : Bytes) : Option (List Nat) :=
  match b with
  | [] => none
  | first :: rest =>
    if b.length < 3 ∨ maxLength < b.length ∨ 120 ≤ first then none
    else (arcsFrom 0 0 rest).map fun arcs => first.toNat / 40 :: first.toNat % 40 :: arcs

def text (b : Oid) : String :=
  String.ofList (Text.join ['.'] (((arcs? b).getD []).map Decimal.digits))

end Oid

end HbarKit.Der
