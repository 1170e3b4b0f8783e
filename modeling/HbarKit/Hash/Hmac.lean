import HbarKit.Hash.Function

/-!
# HMAC and PBKDF2

A hash function keyed by two passes over differently masked keys, and a key stretched out of a
password by iterating it.
-/
namespace HbarKit.Hash

/-- The key as one block: a key that is too long is hashed first. -/
def keyBlock (h : HashFunction) (key : Bytes) : Bytes :=
  let k := if h.blockLength < key.length then h.digest key else key
  k ++ List.replicate (h.blockLength - k.length) 0

def hmac (h : HashFunction) (key message : Bytes) : Bytes :=
  let block := keyBlock h key
  h.digest (block.map (· ^^^ 0x5c) ++ h.digest (block.map (· ^^^ 0x36) ++ message))

@[simp] theorem length_hmac (h : HashFunction) (key message : Bytes) :
    (hmac h key message).length = h.digestLength := by
  simp [hmac]

/-- `rounds` further iterations of a keyed function on `last`, all results added to `sum`. -/
def iterateSum (prf : Bytes → Bytes) : (rounds : Nat) → (last sum : Bytes) → Bytes
  | 0, _, sum => sum
  | rounds + 1, last, sum =>
    let next := prf last
    iterateSum prf rounds next (Bytes.xor sum next)

/-- The output block with a number. No rounds count as one. -/
def stretchBlock (prf : Bytes → Bytes) (salt : Bytes) (rounds index : Nat) : Bytes :=
  let first := prf (salt ++ Bytes.ofNatBE 4 index)
  iterateSum prf (rounds - 1) first first

def pbkdf2 (h : HashFunction) (password salt : Bytes) (rounds length : Nat) : Bytes :=
  let blocks := (length + h.digestLength - 1) / h.digestLength
  ((List.range' 1 blocks).flatMap (stretchBlock (hmac h password) salt rounds)).take length

theorem length_iterateSum (prf : Bytes → Bytes) (n : Nat) (hprf : ∀ m, (prf m).length = n)
    (rounds : Nat) (last sum : Bytes) (hsum : sum.length = n) :
    (iterateSum prf rounds last sum).length = n := by
  induction rounds generalizing last sum with
  | zero => exact hsum
  | succ rounds ih => exact ih _ _ (by simp [Bytes.xor, hsum, hprf])

theorem length_stretchBlock (prf : Bytes → Bytes) (n : Nat) (hprf : ∀ m, (prf m).length = n)
    (salt : Bytes) (rounds index : Nat) : (stretchBlock prf salt rounds index).length = n :=
  length_iterateSum prf n hprf _ _ _ (hprf _)

theorem length_flatMap_of_forall (f : Nat → Bytes) (n : Nat) (hf : ∀ i, (f i).length = n)
    (l : List Nat) : (l.flatMap f).length = l.length * n := by
  induction l with
  | nil => simp
  | cons i l ih => simp [ih, hf, Nat.succ_mul, Nat.add_comm]

@[simp] theorem length_pbkdf2 (h : HashFunction) (password salt : Bytes) (rounds length : Nat)
    (hpos : 0 < h.digestLength) : (pbkdf2 h password salt rounds length).length = length := by
  have hblock := length_flatMap_of_forall (stretchBlock (hmac h password) salt rounds)
    h.digestLength (length_stretchBlock _ _ (length_hmac h password) salt rounds)
  have hle := Nat.div_add_mod (length + h.digestLength - 1) h.digestLength
  have hlt := Nat.mod_lt (length + h.digestLength - 1) hpos
  have hcomm := Nat.mul_comm h.digestLength ((length + h.digestLength - 1) / h.digestLength)
  simp only [pbkdf2, List.length_take, hblock, List.length_range']
  omega

end HbarKit.Hash
