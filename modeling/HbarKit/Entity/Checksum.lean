import HbarKit.Entity.Ledger
import HbarKit.Text.Decimal

/-!
# Entity checksums

Five lowercase letters computed from the written address and the salt of a ledger. The letters
hold, in mixed radix, the length of the address modulo 5, its digit sums at even and odd places
modulo 11 and its weighted digit sum modulo 26³, all shifted by the salt and multiplied by a unit
modulo 26⁵, so no part of it is lost.
-/
namespace HbarKit.Checksum

/-- The digits of a written address, where a point counts ten. -/
def digitValue (c : Char) : Nat := if c = '.' then 10 else c.toNat - 48

def addressChars (shard realm num : Nat) : List Char :=
  Decimal.digits shard ++ '.' :: Decimal.digits realm ++ '.' :: Decimal.digits num

/-- The digits in base 31, modulo 26³. -/
def weightedSum (ds : List Nat) : Nat := ds.foldl (fun s d => (31 * s + d) % 17576) 0

/-- The sum of the digits at even places, counted from zero. -/
def evenSum : List Nat → Nat
  | [] => 0
  | [d] => d
  | d :: _ :: rest => d + evenSum rest

def oddSum (ds : List Nat) : Nat := evenSum ds.tail

/-- The salt of a ledger in base 31, modulo 26⁵. -/
def saltSum (l : Ledger) : Nat := l.salt.foldl (fun s b => (31 * s + b) % 11881376) 0

/-- The number whose letters are the checksum. -/
def code (l : Ledger) (ds : List Nat) : Nat :=
  let packed :=
    ((ds.length % 5 * 11 + evenSum ds % 11) * 11 + oddSum ds % 11) * 17576 + weightedSum ds
  (packed + saltSum l) % 11881376 * 1000003 % 11881376

/-- A number in base 26 with exactly `width` letters, the most significant first. -/
def letters : (width n : Nat) → List Char
  | 0, _ => []
  | width + 1, n => letters width (n / 26) ++ [Char.ofNat (97 + n % 26)]

def compute (l : Ledger) (shard realm num : Nat) : String :=
  String.ofList (letters 5 (code l ((addressChars shard realm num).map digitValue)))

end HbarKit.Checksum
