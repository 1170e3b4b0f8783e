import HbarKit.Key.Scheme

/-!
# Keystore errors

Why a stored key cannot be opened.
-/
namespace HbarKit

inductive Malformation where
  | keyLength (given : Nat)
  /-- The passphrase is not stretched at all. -/
  | noRounds
  | notHex (field : String)
  /-- The start value of the cipher has the wrong length. -/
  | startLength (given : Nat)
  | unreadable (reason : String)
  deriving DecidableEq, Repr

def Malformation.text : Malformation → String
  | keyLength given => "dkLen must be 32, got " ++ Decimal.ofNat given
  | noRounds => "kdf round count is zero"
  | notHex field => field ++ " is not valid hex"
  | startLength given => "iv must be 16 bytes, got " ++ Decimal.ofNat given
  | unreadable reason => reason

inductive KeystoreError where
  /-- The passphrase is wrong, or the document was changed. -/
  | wrongPassphrase
  | malformed (what : Malformation)
  | version (given : Nat)
  | algorithm (name : String)
  | passphraseRequired
  | label (name : String)
  | key (error : KeyError)
  deriving DecidableEq, Repr

def KeystoreError.message : KeystoreError → String
  | wrongPassphrase => "invalid passphrase or corrupt keystore"
  | malformed what => "malformed keystore: " ++ what.text
  | version given => "unsupported keystore version " ++ Decimal.ofNat given
  | algorithm name => "unsupported keystore algorithm: " ++ name
  | passphraseRequired => "encrypted PEM requires a passphrase"
  | label name => "unsupported PEM label: " ++ name
  | key error => error.message

end HbarKit
