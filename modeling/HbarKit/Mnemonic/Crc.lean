import HbarKit.Bytes

/-!
# The check byte of old phrases

A cyclic redundancy check over bytes, lowest bit first, with the polynomial whose reflected form
is `0xb2`. It starts at all ones and ends with all bits turned.
-/
namespace HbarKit.Crc

/-- One bit shifted out, and the polynomial added when it was a one. -/
def shift (crc : UInt8) : UInt8 := (crc >>> 1) ^^^ (if crc &&& 1 = 1 then 0xb2 else 0)

def step (crc byte : UInt8) : UInt8 := Nat.repeat shift 8 (crc ^^^ byte)

def check (b : Bytes) : UInt8 := b.foldl step 0xff ^^^ 0xff

end HbarKit.Crc
