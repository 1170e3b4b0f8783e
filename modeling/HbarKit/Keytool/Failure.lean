import HbarKit.Keystore.Error
import HbarKit.Mnemonic.Error
import HbarKit.Entity.Id

/-!
# Failures of commands

A command fails at one of its steps. The failure tells the step and, behind it, the cause.
-/
namespace HbarKit.Keytool

inductive FileFault where
  | system (number : Nat) (reason : String)
  | notText
  deriving DecidableEq

namespace FileFault

/-- There is no such file, or no directory for it. -/
def missing : FileFault := .system 2 "No such file or directory"

/-- A part of the path before the last one is a file. -/
def notDirectory : FileFault := .system 20 "Not a directory"

def isDirectory : FileFault := .system 21 "Is a directory"

/-- The path, or a name in it, has more bytes than the system takes. -/
def nameTooLong : FileFault := .system 36 "File name too long"

def message : FileFault → String
  | system number reason => reason ++ " (os error " ++ Decimal.ofNat number ++ ")"
  | notText => "stream did not contain valid UTF-8"

end FileFault

inductive FileKind where
  | wordList
  | keystore
  | pem
  deriving DecidableEq

def FileKind.text : FileKind → String
  | wordList => "word list"
  | keystore => "keystore"
  | pem => "PEM"

/-- The step at which a command fails, and the cause. -/
inductive Failure where
  | phrase (error : MnemonicError)
  | standardKey (error : MnemonicError)
  | childIndex (index : Int64)
  | child (error : KeyError)
  | table (error : MnemonicError)
  | legacyKey (error : MnemonicError)
  | legacyChild (error : KeyError)
  | privateKey (error : KeyError)
  | read (kind : FileKind) (path : String) (fault : FileFault)
  | write (path : String) (fault : FileFault)
  | keystore (path : String) (error : KeystoreError)
  | pem (path : String) (error : KeystoreError)
  | checksum (id : EntityId) (given : String) (ledger : Ledger)
  deriving DecidableEq

namespace Failure

def context : Failure → String
  | phrase _ => "invalid mnemonic"
  | standardKey _ => "failed to derive key from mnemonic"
  | childIndex _ => "SLIP-10 child index must be between 0 and 2^32 - 1"
  | child _ => "failed to derive child key"
  | table _ => "invalid legacy word list"
  | legacyKey _ => "failed to recover legacy key"
  | legacyChild _ => "failed to derive legacy child key"
  | privateKey _ => "invalid private key"
  | read kind path _ => "failed to read " ++ kind.text ++ " " ++ path
  | write path _ => "failed to write " ++ path
  | keystore path _ => "failed to decrypt keystore " ++ path
  | pem path _ => "failed to load PEM " ++ path
  | checksum id given ledger =>
    "checksum " ++ given ++ " does not match " ++ id.text ++ " on " ++ ledger.name ++
      " (expected " ++ id.checksumOn ledger ++ ")"

/-- Why it could not be done, unless that is said already. -/
def cause? : Failure → Option String
  | phrase e | standardKey e | table e | legacyKey e => some e.message
  | child e | legacyChild e | privateKey e => some e.message
  | childIndex i =>
    some ("number too " ++ (if i < 0 then "small" else "large") ++ " to fit in target type")
  | read _ _ fault | write _ fault => some fault.message
  | keystore _ e | pem _ e => some e.message
  | checksum .. => none

/-- A text with four blanks in front of each line. -/
def indented (s : String) : List Char :=
  Text.join ['\n'] ((Text.pieces '\n' s.toList).map fun line => "    ".toList ++ line)

def text (f : Failure) : String :=
  match f.cause? with
  | none => "Error: " ++ f.context ++ "\n"
  | some cause =>
    "Error: " ++ f.context ++ "\n\nCaused by:\n" ++ String.ofList (indented cause) ++ "\n"

end Failure

end HbarKit.Keytool
