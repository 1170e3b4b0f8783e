import HbarKit.Bytes

/-!
# The block cipher AES

A block of 16 bytes is a square with four columns of four bytes. Each round replaces bytes, shifts
rows, mixes columns and adds a round key; the last round does not mix. Bytes are elements of the
field of 256 elements with the reducing polynomial `x⁸ + x⁴ + x³ + x + 1`. Keys have 16, 24 or 32
bytes.
-/
namespace HbarKit.Cipher

/-- A permutation of blocks of 16 bytes and the way back. -/
structure BlockCipher where
  encrypt : Octets 16 → Octets 16
  decrypt : Octets 16 → Octets 16

namespace Aes

def double (a : UInt8) : UInt8 := (a <<< 1) ^^^ (if a &&& 0x80 = 0 then 0 else 0x1b)

/-- The sum of the multiples of `b` by the lowest `bits` bits of `a`. -/
def multiplyBits : (bits : Nat) → (a b : UInt8) → UInt8
  | 0, _, _ => 0
  | bits + 1, a, b => (if a &&& 1 = 0 then 0 else b) ^^^ multiplyBits bits (a >>> 1) (double b)

def multiply (a b : UInt8) : UInt8 := multiplyBits 8 a b

/-- The inverse of a field element, zero for zero: its power with the exponent 254. -/
def inverse (a : UInt8) : UInt8 :=
  let a2 := multiply a a
  let a4 := multiply a2 a2
  let a8 := multiply a4 a4
  let a16 := multiply a8 a8
  let a32 := multiply a16 a16
  let a64 := multiply a32 a32
  let a128 := multiply a64 a64
  multiply a2 (multiply a4 (multiply a8 (multiply a16 (multiply a32 (multiply a64 a128)))))

def rotate (n a : UInt8) : UInt8 := (a <<< n) ||| (a >>> (8 - n))

def substitute (a : UInt8) : UInt8 :=
  let b := inverse a
  b ^^^ rotate 1 b ^^^ rotate 2 b ^^^ rotate 3 b ^^^ rotate 4 b ^^^ 0x63

def substitutions : Array UInt8 := (Array.range 256).map fun n => substitute (UInt8.ofNat n)

def replaced : Array UInt8 :=
  (Array.range 256).map fun n => UInt8.ofNat (substitutions.toList.idxOf (UInt8.ofNat n))

def forward (a : UInt8) : UInt8 := substitutions.getD a.toNat 0

def backward (a : UInt8) : UInt8 := replaced.getD a.toNat 0

/-- The block whose byte in row `r` of column `c` is given by a function of `c` and `r`. -/
def build (f : Nat → Nat → UInt8) : Octets 16 :=
  ⟨(List.range 16).map fun i => f (i / 4) (i % 4), by simp⟩

def entry (b : Octets 16) (c r : Nat) : UInt8 := b.bytes.getD (4 * c + r) 0

/-- Row `r` moves `r` places to the left. -/
def shiftRows (b : Octets 16) : Octets 16 := build fun c r => entry b ((c + r) % 4) r

def unshiftRows (b : Octets 16) : Octets 16 := build fun c r => entry b ((c + 4 - r) % 4) r

/-- Every column is multiplied by the circulant matrix with a first row. -/
def mixWith (row : List UInt8) (b : Octets 16) : Octets 16 :=
  let column (c r : Nat) :=
    multiply (row.getD ((4 - r) % 4) 0) (entry b c 0) ^^^
      multiply (row.getD ((5 - r) % 4) 0) (entry b c 1) ^^^
      multiply (row.getD ((6 - r) % 4) 0) (entry b c 2) ^^^
      multiply (row.getD ((7 - r) % 4) 0) (entry b c 3)
  build column

def mixColumns : Octets 16 → Octets 16 := mixWith [2, 3, 1, 1]

def unmixColumns : Octets 16 → Octets 16 := mixWith [14, 11, 13, 9]

def mapBytes (f : UInt8 → UInt8) (b : Octets 16) : Octets 16 :=
  ⟨b.bytes.map f, by simp [b.length_eq]⟩

/-- The constant of a round, a power of `x`. -/
def roundConstant (n : Nat) : UInt8 := Nat.repeat double n 1

/-- The next word of the key schedule, `words` words of four bytes being there, from the last word
and the one `size` words back. -/
def nextWord (size : Nat) (words : Array Bytes) : Bytes :=
  let n := words.size
  let last := words.getD (n - 1) []
  let mixed :=
    if n % size = 0 then
      match last.drop 1 ++ last.take 1 with
      | a :: rest => (forward a ^^^ roundConstant (n / size - 1)) :: rest.map forward
      | [] => []
    else if 6 < size ∧ n % size = 4 then last.map forward
    else last
  Bytes.xor (words.getD (n - size) []) mixed

def roundKeys (key : Bytes) : List (Octets 16) :=
  let size := key.length / 4
  let first := ((Octets.split 4 key).map Octets.bytes).toArray
  let words := Nat.repeat (fun ws => ws.push (nextWord size ws)) (3 * size + 28) first
  Octets.split 16 words.toList.flatten

def round (b key : Octets 16) : Octets 16 :=
  (mixColumns (shiftRows (mapBytes forward b))).xor key

def unround (b key : Octets 16) : Octets 16 :=
  mapBytes backward (unshiftRows (unmixColumns (b.xor key)))

def encrypt (first : Octets 16) (middle : List (Octets 16)) (last b : Octets 16) : Octets 16 :=
  (shiftRows (mapBytes forward (middle.foldl round (b.xor first)))).xor last

def decrypt (first : Octets 16) (middle : List (Octets 16)) (last b : Octets 16) : Octets 16 :=
  ((middle.foldr (fun key b => unround b key)
    (mapBytes backward (unshiftRows (b.xor last))))).xor first

end Aes

def aes (key : Bytes) : BlockCipher :=
  match Aes.roundKeys key with
  | [] => ⟨id, id⟩
  | first :: rest =>
    let last := rest.getLastD first
    ⟨Aes.encrypt first rest.dropLast last, Aes.decrypt first rest.dropLast last⟩

end HbarKit.Cipher
