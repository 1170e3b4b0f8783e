import HbarKit.Key.Private
import HbarKit.Keystore.Armor
import HbarKit.Keystore.Encrypted

/-!
# Keys in armored text

A private key is read from a block with one of three labels: a key document, an encrypted key
document, or the form that holds elliptic curve keys only. It is written as a key document, plain
or encrypted.
-/
namespace HbarKit.PrivateKey

def plainLabel : String := "PRIVATE KEY"

def encryptedLabel : String := "ENCRYPTED PRIVATE KEY"

def ellipticLabel : String := "EC PRIVATE KEY"

def ofEncrypted (b : Bytes) (passphrase : Option String) : Except KeystoreError PrivateKey :=
  match passphrase with
  | none => .error .passphraseRequired
  | some passphrase =>
    match EncryptedKey.ofDer b with
    | .error fault => .error (.malformed (.unreadable ("PKCS#8 ASN.1 error: " ++ fault.text)))
    | .ok e =>
      match (e.decrypt? passphrase).map ofDer with
      | some (.ok key) => .ok key
      | _ => .error .wrongPassphrase

/-- The key in the first block of a text. The passphrase is for encrypted keys and of no account
for others. -/
def ofPem (text : String) (passphrase : Option String) : Except KeystoreError PrivateKey :=
  match Armor.parse text with
  | .error reason => .error (.malformed (.unreadable reason))
  | .ok block =>
    if block.label = plainLabel then (ofDer block.contents).mapError .key
    else if block.label = encryptedLabel then ofEncrypted block.contents passphrase
    else if block.label = ellipticLabel then
      match KeyDocument.ellipticSecret? block.contents with
      | some secret => .ok (ecdsa secret)
      | none => .error (.key (.invalid .ecdsa))
    else .error (.label block.label)

def toPem (k : PrivateKey) : String := (Armor.mk plainLabel k.der).text

/-- The key as a text block under a passphrase, with a salt and a start value that have to be new
for each block. -/
def toEncryptedPem (k : PrivateKey) (passphrase : String) (salt start : Octets 16) : String :=
  let e := EncryptedKey.ofPlain k.der passphrase salt start
  (Armor.mk encryptedLabel (EncryptedKey.toDer salt.bytes start.bytes e.ciphertext)).text

end HbarKit.PrivateKey
