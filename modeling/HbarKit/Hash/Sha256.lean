import HbarKit.Hash.Function

/-!
# SHA-256 and SHA-224

The message is padded to blocks of 64 bytes, every block is expanded to 64 words of 32 bits, and
each word turns the state of eight words by one round. SHA-224 starts elsewhere and leaves out the
last word.
-/
namespace HbarKit.Hash.Sha256

/-- The first 32 bits behind the point of the cube roots of the first 64 primes. -/
def roundConstants : Array UInt32 :=
  #[0x428a2f98, 0x71374491, 0xb5c0fbcf, 0xe9b5dba5, 0x3956c25b, 0x59f111f1, 0x923f82a4, 0xab1c5ed5,
    0xd807aa98, 0x12835b01, 0x243185be, 0x550c7dc3, 0x72be5d74, 0x80deb1fe, 0x9bdc06a7, 0xc19bf174,
    0xe49b69c1, 0xefbe4786, 0x0fc19dc6, 0x240ca1cc, 0x2de92c6f, 0x4a7484aa, 0x5cb0a9dc, 0x76f988da,
    0x983e5152, 0xa831c66d, 0xb00327c8, 0xbf597fc7, 0xc6e00bf3, 0xd5a79147, 0x06ca6351, 0x14292967,
    0x27b70a85, 0x2e1b2138, 0x4d2c6dfc, 0x53380d13, 0x650a7354, 0x766a0abb, 0x81c2c92e, 0x92722c85,
    0xa2bfe8a1, 0xa81a664b, 0xc24b8b70, 0xc76c51a3, 0xd192e819, 0xd6990624, 0xf40e3585, 0x106aa070,
    0x19a4c116, 0x1e376c08, 0x2748774c, 0x34b0bcb5, 0x391c0cb3, 0x4ed8aa4a, 0x5b9cca4f, 0x682e6ff3,
    0x748f82ee, 0x78a5636f, 0x84c87814, 0x8cc70208, 0x90befffa, 0xa4506ceb, 0xbef9a3f7, 0xc67178f2]

structure State where
  (a b c d e f g h : UInt32)

/-- The first 32 bits behind the point of the square roots of the first eight primes. -/
def start256 : State :=
  ⟨0x6a09e667, 0xbb67ae85, 0x3c6ef372, 0xa54ff53a, 0x510e527f, 0x9b05688c, 0x1f83d9ab, 0x5be0cd19⟩

/-- The second 32 bits behind the point of the square roots of the ninth to sixteenth primes. -/
def start224 : State :=
  ⟨0xc1059ed8, 0x367cd507, 0x3070dd17, 0xf70e5939, 0xffc00b31, 0x68581511, 0x64f98fa7, 0xbefa4fa4⟩

def rotate (n : UInt32) (x : UInt32) : UInt32 := (x >>> n) ||| (x <<< (32 - n))

def wordOf (a b c d : UInt8) : UInt32 :=
  (a.toUInt32 <<< 24) ||| (b.toUInt32 <<< 16) ||| (c.toUInt32 <<< 8) ||| d.toUInt32

def blockWords : Bytes → Array UInt32 → Array UInt32
  | a :: b :: c :: d :: rest, acc => blockWords rest (acc.push (wordOf a b c d))
  | _, acc => acc

def expand (w : Array UInt32) (t : Nat) : Array UInt32 :=
  let x := w.getD (t - 15) 0
  let y := w.getD (t - 2) 0
  w.push (w.getD (t - 16) 0 + (rotate 7 x ^^^ rotate 18 x ^^^ (x >>> 3)) +
    w.getD (t - 7) 0 + (rotate 17 y ^^^ rotate 19 y ^^^ (y >>> 10)))

def State.round (s : State) (k w : UInt32) : State :=
  let t₁ := s.h + (rotate 6 s.e ^^^ rotate 11 s.e ^^^ rotate 25 s.e) +
    ((s.e &&& s.f) ^^^ (~~~s.e &&& s.g)) + k + w
  let t₂ := (rotate 2 s.a ^^^ rotate 13 s.a ^^^ rotate 22 s.a) +
    ((s.a &&& s.b) ^^^ (s.a &&& s.c) ^^^ (s.b &&& s.c))
  ⟨t₁ + t₂, s.a, s.b, s.c, s.d + t₁, s.e, s.f, s.g⟩

def State.add (s t : State) : State :=
  ⟨s.a + t.a, s.b + t.b, s.c + t.c, s.d + t.d, s.e + t.e, s.f + t.f, s.g + t.g, s.h + t.h⟩

def State.absorb (s : State) (block : Bytes) : State :=
  let w := (List.range' 16 48).foldl expand (blockWords block #[])
  s.add ((List.range 64).foldl (fun s t => s.round (roundConstants.getD t 0) (w.getD t 0)) s)

def wordBytes (w : UInt32) : Bytes :=
  [(w >>> 24).toUInt8, (w >>> 16).toUInt8, (w >>> 8).toUInt8, w.toUInt8]

def State.words (s : State) : List UInt32 := [s.a, s.b, s.c, s.d, s.e, s.f, s.g, s.h]

def run (start : State) (m : Bytes) : State :=
  absorbBlocks State.absorb 64 start (pad 64 8 m)

end Sha256

def sha256 : HashFunction where
  blockLength := 64
  digestLength := 32
  digest m := (Sha256.run Sha256.start256 m).words.flatMap Sha256.wordBytes
  length_digest _ := rfl

def sha224 : HashFunction where
  blockLength := 64
  digestLength := 28
  digest m := ((Sha256.run Sha256.start224 m).words.take 7).flatMap Sha256.wordBytes
  length_digest _ := rfl

end HbarKit.Hash
