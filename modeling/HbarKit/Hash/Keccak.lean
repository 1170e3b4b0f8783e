import HbarKit.Hash.Function

/-!
# Keccak-256

The sponge over 25 lanes of 64 bits with the padding of the first Keccak submission, whose first
byte behind the message is 1. It is not the later standard with another padding byte.
-/
namespace HbarKit.Hash.Keccak

/-- What each of the 24 rounds adds to the first lane. -/
def roundConstants : List UInt64 :=
  [0x0000000000000001, 0x0000000000008082, 0x800000000000808a, 0x8000000080008000,
    0x000000000000808b, 0x0000000080000001, 0x8000000080008081, 0x8000000000008009,
    0x000000000000008a, 0x0000000000000088, 0x0000000080008009, 0x000000008000000a,
    0x000000008000808b, 0x800000000000008b, 0x8000000000008089, 0x8000000000008003,
    0x8000000000008002, 0x8000000000000080, 0x000000000000800a, 0x800000008000000a,
    0x8000000080008081, 0x8000000000008080, 0x0000000080000001, 0x8000000080008008]

def rotations : Array UInt64 :=
  #[0, 1, 62, 28, 27, 36, 44, 6, 55, 20, 3, 10, 43, 25, 39, 41, 45, 15, 21, 8, 18, 2, 61, 56, 14]

def rotate (n x : UInt64) : UInt64 := (x <<< n) ||| (x >>> (64 - n))

def parity (s : Array UInt64) (x : Nat) : UInt64 :=
  s.getD x 0 ^^^ s.getD (x + 5) 0 ^^^ s.getD (x + 10) 0 ^^^ s.getD (x + 15) 0 ^^^ s.getD (x + 20) 0

def mix (columns : Array UInt64) (x : Nat) : UInt64 :=
  columns.getD ((x + 4) % 5) 0 ^^^ rotate 1 (columns.getD ((x + 1) % 5) 0)

/-- One round: lane `x + 5 y` takes the mixed and rotated lane that moves there, combined with its
two neighbours of the row. -/
def round (s : Array UInt64) (constant : UInt64) : Array UInt64 :=
  let columns := (Array.range 5).map (parity s)
  let mixed := (Array.range 25).map fun i => s.getD i 0 ^^^ mix columns (i % 5)
  let moved := (Array.range 25).map fun i =>
    let source := (i % 5 + 3 * (i / 5)) % 5 + 5 * (i % 5)
    rotate (rotations.getD source 0) (mixed.getD source 0)
  let next := (Array.range 25).map fun i =>
    let row := 5 * (i / 5)
    moved.getD i 0 ^^^
      (~~~(moved.getD (row + (i + 1) % 5) 0) &&& moved.getD (row + (i + 2) % 5) 0)
  next.set! 0 (next.getD 0 0 ^^^ constant)

def permute (s : Array UInt64) : Array UInt64 := roundConstants.foldl round s

/-- The lane given by eight bytes, least significant first. -/
def laneOf (a b c d e f g h : UInt8) : UInt64 :=
  a.toUInt64 ||| (b.toUInt64 <<< 8) ||| (c.toUInt64 <<< 16) ||| (d.toUInt64 <<< 24) |||
    (e.toUInt64 <<< 32) ||| (f.toUInt64 <<< 40) ||| (g.toUInt64 <<< 48) ||| (h.toUInt64 <<< 56)

/-- Adds the lanes of a block to the state from lane `i` on. -/
def addBlock (i : Nat) : Bytes → Array UInt64 → Array UInt64
  | a :: b :: c :: d :: e :: f :: g :: h :: rest, s =>
    addBlock (i + 1) rest (s.set! i (s.getD i 0 ^^^ laneOf a b c d e f g h))
  | _, s => s

/-- The message with its padding to whole blocks of 136 bytes. -/
def pad (m : Bytes) : Bytes :=
  match 135 - m.length % 136 with
  | 0 => m ++ [0x81]
  | n + 1 => m ++ 0x01 :: List.replicate n 0 ++ [0x80]

def run (m : Bytes) : Array UInt64 :=
  absorbBlocks (fun s block => permute (addBlock 0 block s)) 136 (Array.replicate 25 0) (pad m)

def laneBytes (w : UInt64) : Bytes :=
  [w.toUInt8, (w >>> 8).toUInt8, (w >>> 16).toUInt8, (w >>> 24).toUInt8, (w >>> 32).toUInt8,
    (w >>> 40).toUInt8, (w >>> 48).toUInt8, (w >>> 56).toUInt8]

end Keccak

def keccak256 : HashFunction where
  blockLength := 136
  digestLength := 32
  digest m := [0, 1, 2, 3].flatMap fun i => Keccak.laneBytes ((Keccak.run m).getD i 0)
  length_digest _ := rfl

end HbarKit.Hash
