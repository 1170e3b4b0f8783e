import HbarKit.Cipher.Mode
import HbarKit.Json.Record
import HbarKit.Key.Private
import HbarKit.Keystore.Error

/-!
# Keystore documents

A private key under a passphrase. The passphrase is stretched to 32 bytes, of which the first half
encrypts the bare key in counter mode and the second half tags the cipher text. The tag is checked
before anything is decrypted.
-/
namespace HbarKit

/-- What the passphrase is stretched with, as it is written. -/
structure StretchParams where
  derivedLength : UInt64
  salt : String
  rounds : UInt32
  prf : String
  deriving DecidableEq, Repr

/-- The encrypted key and the names and values it was encrypted with, as they are written. -/
structure SealedKey where
  ciphertext : String
  start : String
  cipher : String
  kdf : String
  kdfParams : StretchParams
  mac : String
  deriving DecidableEq, Repr

/-- A keystore document. Old ones do not tell the scheme of the key. -/
structure Keystore where
  version : UInt32
  crypto : SealedKey
  scheme : Option Scheme
  deriving DecidableEq, Repr

namespace Keystore

def knownVersion : UInt32 := 1

def cipherName : String := "aes-128-ctr"

def kdfName : String := "pbkdf2"

def prfName : String := "hmac-sha256"

def toJson (k : Keystore) : Json :=
  let c := k.crypto
  .object ([("version", .nat k.version.toNat),
    ("crypto", .object [("ciphertext", .string c.ciphertext),
      ("cipherparams", .object [("iv", .string c.start)]),
      ("cipher", .string c.cipher), ("kdf", .string c.kdf),
      ("kdfparams", .object [("dkLen", .nat c.kdfParams.derivedLength.toNat),
        ("salt", .string c.kdfParams.salt), ("c", .nat c.kdfParams.rounds.toNat),
        ("prf", .string c.kdfParams.prf)]),
      ("mac", .string c.mac)])] ++
    (match k.scheme with
      | some s => [("keyType", .string s.name)]
      | none => []))

def text (k : Keystore) : String := k.toJson.compact

section Reading

open Json (Member Reader readString readNat readRecord)

def textField (name : String) (put : String → σ → σ) : Member σ :=
  Member.of name (readString "a string") put

def readParams : Reader StretchParams :=
  readRecord "struct KdfParams"
    [Member.of "dkLen" (readNat "usize" (UInt64.size - 1))
        fun n p => { p with derivedLength := UInt64.ofNat n },
      textField "salt" fun s p => { p with salt := s },
      Member.of "c" (readNat "u32" (UInt32.size - 1))
        fun n p => { p with rounds := UInt32.ofNat n },
      textField "prf" fun s p => { p with prf := s }]
    ⟨0, "", 0, ""⟩

def readStart : Reader String :=
  readRecord "struct CipherParams" [textField "iv" fun s _ => s] ""

def readSealed : Reader SealedKey :=
  readRecord "struct KeystoreCrypto"
    [textField "ciphertext" fun s c => { c with ciphertext := s },
      Member.of "cipherparams" readStart fun s c => { c with start := s },
      textField "cipher" fun s c => { c with cipher := s },
      textField "kdf" fun s c => { c with kdf := s },
      Member.of "kdfparams" readParams fun p c => { c with kdfParams := p },
      textField "mac" fun s c => { c with mac := s }]
    ⟨"", "", "", "", ⟨0, "", 0, ""⟩, ""⟩

def readDocument : Reader Keystore :=
  readRecord "struct Keystore"
    [Member.of "version" (readNat "u32" (UInt32.size - 1))
        fun n k => { k with version := UInt32.ofNat n },
      Member.of "crypto" readSealed fun c k => { k with crypto := c },
      { Member.of "keyType"
          (Json.readOptional (Json.readChoice [("ed25519", Scheme.ed25519), ("ecdsa", .ecdsa)]))
          (fun s k => { k with scheme := s }) with optional := true }]
    ⟨0, ⟨"", "", "", "", ⟨0, "", 0, ""⟩, ""⟩, none⟩

end Reading

def parse (text : String) : Except KeystoreError Keystore :=
  (Json.readWhole readDocument text).mapError fun f =>
    .malformed (.unreadable (f.message text.toList))

/-- The two keys of 16 bytes that a passphrase gives: for the cipher and for the tag. -/
def keys (passphrase : String) (salt : Bytes) (rounds : UInt32) : Bytes × Bytes :=
  let derived := Hash.pbkdf2 Hash.sha256 (Bytes.ofString passphrase) salt rounds.toNat 32
  (derived.take 16, derived.drop 16)

def tag (key ciphertext : Bytes) : Bytes := Hash.hmac Hash.sha384 key ciphertext

/-- The document of a key under a passphrase, with a salt and a start value that have to be new for
each document. -/
def encrypt (key : PrivateKey) (passphrase : String) (rounds : UInt32) (salt : Octets 32)
    (start : Octets 16) : Keystore :=
  let (cipherKey, tagKey) := keys passphrase salt.bytes rounds
  let ciphertext := Cipher.counterMode (Cipher.aes cipherKey) start key.raw
  { version := knownVersion
    crypto :=
      { ciphertext := Hex.encode ciphertext
        start := Hex.encode start.bytes
        cipher := cipherName
        kdf := kdfName
        kdfParams :=
          { derivedLength := 32
            salt := Hex.encode salt.bytes
            rounds
            prf := prfName }
        mac := Hex.encode (tag tagKey ciphertext) }
    scheme := some key.scheme }

def field (name value : String) : Except KeystoreError Bytes :=
  match Hex.decode? value with
  | some b => .ok b
  | none => .error (.malformed (.notHex name))

def checkForm (k : Keystore) : Except KeystoreError Unit :=
  let c := k.crypto
  if k.version ≠ knownVersion then .error (.version k.version.toNat)
  else if c.cipher ≠ cipherName then .error (.algorithm c.cipher)
  else if c.kdf ≠ kdfName then .error (.algorithm c.kdf)
  else if c.kdfParams.prf ≠ prfName then .error (.algorithm c.kdfParams.prf)
  else if c.kdfParams.derivedLength ≠ 32 then
    .error (.malformed (.keyLength c.kdfParams.derivedLength.toNat))
  else if c.kdfParams.rounds = 0 then .error (.malformed .noRounds)
  else .ok ()

structure Contents where
  salt : Bytes
  start : Octets 16
  ciphertext : Bytes
  mac : Bytes

/-- The byte strings of a document in the order in which they are looked at. -/
def contents (k : Keystore) : Except KeystoreError Contents := do
  let salt ← field "salt" k.crypto.kdfParams.salt
  let start ← field "iv" k.crypto.start
  let ciphertext ← field "ciphertext" k.crypto.ciphertext
  let mac ← field "mac" k.crypto.mac
  match Octets.ofBytes? 16 start with
  | some start => return ⟨salt, start, ciphertext, mac⟩
  | none => throw (.malformed (.startLength start.length))

def ofPlain (scheme : Scheme) (plain : Bytes) : Except KeystoreError PrivateKey :=
  (match scheme with
    | .ed25519 => PrivateKey.ofBytesEd25519 plain
    | .ecdsa => PrivateKey.ofBytesEcdsa plain).mapError .key

def decrypt (k : Keystore) (passphrase : String) : Except KeystoreError PrivateKey := do
  k.checkForm
  let c ← k.contents
  let (cipherKey, tagKey) := keys passphrase c.salt k.crypto.kdfParams.rounds
  if tag tagKey c.ciphertext = c.mac then
    ofPlain (k.scheme.getD .ed25519)
      (Cipher.counterMode (Cipher.aes cipherKey) c.start c.ciphertext)
  else throw .wrongPassphrase

def openText (text passphrase : String) : Except KeystoreError PrivateKey := do
  (← parse text).decrypt passphrase

def openBytes (b : Bytes) (passphrase : String) : Except KeystoreError PrivateKey :=
  match Bytes.toString? b with
  | some text => openText text passphrase
  | none => .error (.malformed (.unreadable "invalid unicode code point"))

end Keystore

end HbarKit
