import HbarKit.Cipher.Aes

/-!
# Modes of a block cipher

In counter mode the cipher makes a stream that is added to the message, whatever its length. In
chaining mode every block is added to the encrypted block before it; the message is first filled up
to whole blocks with bytes that tell how many they are.
-/
namespace HbarKit.Cipher

/-- `count` blocks of stream from a counter on, which starts again from zero after `2¹²⁸ - 1`. -/
def stream (c : BlockCipher) (counter count : Nat) : Bytes :=
  (List.range count).flatMap fun i => (c.encrypt (Octets.ofNatBE 16 (counter + i))).bytes

/-- The message with the stream from a first counter added. The same again gives the message. -/
def counterMode (c : BlockCipher) (start : Octets 16) (m : Bytes) : Bytes :=
  Bytes.xor m (stream c (Bytes.toNatBE start.bytes) ((m.length + 15) / 16))

/-- The message filled up to whole blocks by one to sixteen bytes, each of which is their count. -/
def fill (m : Bytes) : Bytes :=
  let count := 16 - m.length % 16
  m ++ List.replicate count (UInt8.ofNat count)

def unfill? (b : Bytes) : Option Bytes :=
  let count := (b.getLastD 0).toNat
  if 0 < count ∧ count ≤ 16 ∧ count ≤ b.length ∧
      b.drop (b.length - count) = List.replicate count (UInt8.ofNat count) then
    some (b.take (b.length - count))
  else none

/-- Blocks encrypted, each added to the result before it. -/
def chain (c : BlockCipher) : (before : Octets 16) → List (Octets 16) → List (Octets 16)
  | _, [] => []
  | before, b :: rest =>
    let x := c.encrypt (before.xor b)
    x :: chain c x rest

/-- Blocks decrypted, each added to the encrypted one before it. -/
def unchain (c : BlockCipher) : (before : Octets 16) → List (Octets 16) → List (Octets 16)
  | _, [] => []
  | before, x :: rest => before.xor (c.decrypt x) :: unchain c x rest

def encryptChained (c : BlockCipher) (start : Octets 16) (m : Bytes) : Bytes :=
  Octets.join (chain c start (Octets.split 16 (fill m)))

/-- A message decrypted in chaining mode, if it is whole blocks with the right filling. -/
def decryptChained? (c : BlockCipher) (start : Octets 16) (b : Bytes) : Option Bytes :=
  if b.length % 16 = 0 then unfill? (Octets.join (unchain c start (Octets.split 16 b))) else none

end HbarKit.Cipher
