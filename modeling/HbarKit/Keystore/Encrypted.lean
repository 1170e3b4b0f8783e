import HbarKit.Cipher.Mode
import HbarKit.Der.Algorithm
import HbarKit.Hash.Scrypt
import HbarKit.Hash.Sha512

/-!
# Encrypted key documents

A key document encrypted in chaining mode under a key that a passphrase is stretched to. How it is
stretched and which cipher encrypts is told by algorithm identifiers before the cipher text.
-/
namespace HbarKit

/-- The keyed function that stretches a passphrase. The oldest one can be named but not used. -/
inductive StretchHash where
  | sha1
  | sha224
  | sha256
  | sha384
  | sha512
  deriving DecidableEq, Repr

def StretchHash.function? : StretchHash → Option Hash.HashFunction
  | sha1 => none
  | sha224 => some Hash.sha224
  | sha256 => some Hash.sha256
  | sha384 => some Hash.sha384
  | sha512 => some Hash.sha512

inductive Stretch where
  | iterated (salt : Bytes) (rounds : Nat) (keyLength : Option Nat) (hash : StretchHash)
  | memory (salt : Bytes) (cost : Hash.Scrypt.Cost) (keyLength : Option Nat)
  deriving DecidableEq

inductive Encryption where
  | aes (stretch : Stretch) (keyLength : Nat) (start : Octets 16)
  /-- One of the old ways, which can be named but not used. -/
  | old
  deriving DecidableEq

structure EncryptedKey where
  encryption : Encryption
  ciphertext : Bytes
  deriving DecidableEq

namespace EncryptedKey

/-- The identifiers 1.2.840.113549.1.5 and 1.2.840.113549.2 with one more number behind them, and
the other identifiers in use. -/
def passwordOid (n : UInt8) : Der.Oid := [0x2a, 0x86, 0x48, 0x86, 0xf7, 0x0d, 0x01, 0x05, n]

@[inherit_doc passwordOid]
def digestOid (n : UInt8) : Der.Oid := [0x2a, 0x86, 0x48, 0x86, 0xf7, 0x0d, 0x02, n]

/-- The identifier of AES in chaining mode, 2.16.840.1.101.3.4.1 with one more number. -/
def aesOid (n : UInt8) : Der.Oid := [0x60, 0x86, 0x48, 0x01, 0x65, 0x03, 0x04, 0x01, n]

/-- The identifier of scrypt, 1.3.6.1.4.1.11591.4.11. -/
def scryptOid : Der.Oid := [0x2b, 0x06, 0x01, 0x04, 0x01, 0xda, 0x47, 0x04, 0x0b]

def parameter (a : Der.Algorithm) : Except Der.Fault Der.Element :=
  match a.parameter with
  | some e => .ok e
  | none => .error ⟨.value 0x04, none⟩

def number (width : Nat) : Der.Reader Nat := Der.located (Der.unsigned width)

/-- A number of two bytes if the next element is a number. -/
def optionalLength : Der.Reader (Option Nat) :=
  Der.located (Der.optional (· = 0x02) (Der.unsigned 2))

def hashOf (a : Der.Algorithm) : Except Der.Fault StretchHash :=
  match a.parameter with
  | none => .error ⟨.value 0x05, none⟩
  | some e =>
    if e ≠ ⟨0x05, []⟩ then .error ⟨.value e.tag, none⟩
    else if a.oid = digestOid 7 then .ok .sha1
    else if a.oid = digestOid 8 then .ok .sha224
    else if a.oid = digestOid 9 then .ok .sha256
    else if a.oid = digestOid 10 then .ok .sha384
    else if a.oid = digestOid 11 then .ok .sha512
    else .error ⟨.unknownOid a.oid, none⟩

/-- The keyed function if the next element is a sequence, or the oldest one. -/
def optionalHash : Der.Reader StretchHash := do
  match ← Der.optional (· = 0x30) Der.algorithm with
  | some a => Der.settle (hashOf a)
  | none => return .sha1

def iterated : Der.Reader Stretch := do
  return .iterated (← Der.octetString) (← number 4) (← optionalLength) (← optionalHash)

def memory : Der.Reader Stretch := do
  let salt ← Der.octetString
  let cost := ⟨← number 8, ← number 2, ← number 2⟩
  return .memory salt cost (← optionalLength)

def stretchOf (a : Der.Algorithm) : Except Der.Fault Stretch := do
  let e ← parameter a
  if a.oid = passwordOid 12 then e.sequence iterated
  else if a.oid = scryptOid then e.sequence memory
  else throw ⟨.unknownOid a.oid, none⟩

def cipherOf (a : Der.Algorithm) : Except Der.Fault (Nat × Octets 16) := do
  let e ← parameter a
  if e.tag ≠ 0x04 then throw ⟨.otherTag none e.tag, none⟩
  let keyLength ←
    if a.oid = aesOid 2 then pure 16
    else if a.oid = aesOid 22 then pure 24
    else if a.oid = aesOid 42 then pure 32
    else throw ⟨.unknownOid a.oid, none⟩
  match Octets.ofBytes? 16 e.content with
  | some start => return (keyLength, start)
  | none => throw ⟨.value 0x04, none⟩

def newParameters : Der.Reader Encryption := do
  let kdf ← Der.algorithm
  let scheme ← Der.algorithm
  let stretch ← Der.settle (stretchOf kdf)
  let (keyLength, start) ← Der.settle (cipherOf scheme)
  return .aes stretch keyLength start

/-- The parameters of the old ways: a salt of eight bytes and a count. -/
def oldParameters : Der.Reader Encryption := do
  let salt ← Der.octetString
  if salt.length ≠ 8 then Der.refuse (.value 0x04)
  let _ ← number 2
  return .old

def encryptionOf (a : Der.Algorithm) : Except Der.Fault Encryption := do
  if a.oid = passwordOid 13 then (← parameter a).sequence newParameters
  else if [1, 3, 4, 6, 10, 11].any (a.oid = passwordOid ·) then
    (← parameter a).sequence oldParameters
  else throw ⟨.value 0x06, none⟩

def document : Der.Reader EncryptedKey := Der.sequence do
  let encryption ← Der.located do Der.settle (encryptionOf (← Der.algorithm))
  return ⟨encryption, ← Der.octetString⟩

def ofDer (b : Bytes) : Except Der.Fault EncryptedKey := Der.whole document b

/-- The key of a length that a passphrase is stretched to. A length that is written down has to be
that of the cipher. -/
def Stretch.key? (s : Stretch) (passphrase : Bytes) (length : Nat) : Option Bytes :=
  match s with
  | .iterated salt rounds keyLength hash =>
    if keyLength.getD length = length then
      hash.function?.map fun h => Hash.pbkdf2 h passphrase salt rounds length
    else none
  | .memory salt cost keyLength =>
    if keyLength.getD length = length ∧ cost.isValid then
      some (Hash.scrypt cost passphrase salt length)
    else none

def decrypt? (e : EncryptedKey) (passphrase : String) : Option Bytes :=
  match e.encryption with
  | .old => none
  | .aes stretch keyLength start => do
    let key ← Stretch.key? stretch (Bytes.ofString passphrase) keyLength
    Cipher.decryptChained? (Cipher.aes key) start e.ciphertext

def rounds : Nat := 2048

/-- A document under a passphrase, with a salt and a start value that have to be new for each. -/
def ofPlain (document : Bytes) (passphrase : String) (salt start : Octets 16) : EncryptedKey :=
  let stretch := Stretch.iterated salt.bytes rounds none .sha256
  let key := Hash.pbkdf2 Hash.sha256 (Bytes.ofString passphrase) salt.bytes rounds 32
  ⟨.aes stretch 32 start, Cipher.encryptChained (Cipher.aes key) start document⟩

def toDer (salt start ciphertext : Bytes) : Bytes :=
  let sequence (parts : List Bytes) := Der.encode 0x30 parts.flatten
  sequence
    [sequence
      [Der.encode 0x06 (passwordOid 13),
        sequence
          [sequence
            [Der.encode 0x06 (passwordOid 12),
              sequence
                [Der.encode 0x04 salt, Der.encode 0x02 (Bytes.ofNatBE 2 rounds),
                  sequence [Der.encode 0x06 (digestOid 9), Der.encode 0x05 []]]],
            sequence [Der.encode 0x06 (aesOid 42), Der.encode 0x04 start]]],
      Der.encode 0x04 ciphertext]

end EncryptedKey

end HbarKit
