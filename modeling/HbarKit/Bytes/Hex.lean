import HbarKit.Bytes

/-!
# Hexadecimal text

Bytes are written as two lowercase digits each. Reading takes digits of either case and nothing
else: an odd count, a blank or a sign is refused.
-/
namespace HbarKit.Hex

def digit (n : Nat) : Char :=
  if n < 10 then Char.ofNat (48 + n) else Char.ofNat (87 + n)

/-- The value of a digit of either case. -/
def digitValue? (c : Char) : Option Nat :=
  if '0' ≤ c ∧ c ≤ '9' then some (c.toNat - 48)
  else if 'a' ≤ c ∧ c ≤ 'f' then some (c.toNat - 87)
  else if 'A' ≤ c ∧ c ≤ 'F' then some (c.toNat - 55)
  else none

def encodeChars : Bytes → List Char
  | [] => []
  | b :: rest => digit (b.toNat / 16) :: digit (b.toNat % 16) :: encodeChars rest

def decodeChars? : List Char → Option Bytes
  | [] => some []
  | [_] => none
  | high :: low :: rest => do
    let h ← digitValue? high
    let l ← digitValue? low
    let tail ← decodeChars? rest
    return UInt8.ofNat (h * 16 + l) :: tail

def encode (b : Bytes) : String := String.ofList (encodeChars b)

def decode? (s : String) : Option Bytes := decodeChars? s.toList

end HbarKit.Hex
