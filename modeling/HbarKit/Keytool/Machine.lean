import HbarKit.Keystore.Document
import HbarKit.Keystore.Pem
import HbarKit.Keytool.Command
import HbarKit.Keytool.Failure
import HbarKit.Keytool.Report
import HbarKit.Mnemonic.Phrase

/-!
# Doing commands

A command needs little of the machine it is done on: to read and write files, and bytes that nobody
can guess. Everything else is decided here, for any such machine.
-/
namespace HbarKit.Keytool

structure Machine (m : Type → Type) where
  read : String → m (Except FileFault Bytes)
  /-- Writes a file that nobody but its owner may read. -/
  write : String → Bytes → m (Except FileFault Unit)
  /-- Bytes that nobody can guess. -/
  random : (n : Nat) → m (Octets n)

namespace Machine

variable {m : Type → Type} [Monad m]

/-- The result of a step, or the failure that its error means. -/
def step (failure : ε → Failure) : Except ε α → ExceptT Failure m α
  | .ok a => return a
  | .error e => throw (failure e)

def contents (machine : Machine m) (kind : FileKind) (path : String) : ExceptT Failure m Bytes := do
  let found ← (machine.read path : m _)
  step (.read kind path) found

def text (machine : Machine m) (kind : FileKind) (path : String) : ExceptT Failure m String := do
  match Bytes.toString? (← machine.contents kind path) with
  | some s => return s
  | none => throw (.read kind path .notText)

def writeKey (machine : Machine m) (path : String) (key : PrivateKey) (contents : String) :
    ExceptT Failure m Report := do
  let done ← (machine.write path (Bytes.ofString contents) : m _)
  step (.write path) done
  return .written path key.publicKey

def newKey (machine : Machine m) : Scheme → m PrivateKey
  | .ed25519 => return .ofSeed (← machine.random 32)
  | .ecdsa => return .ecdsa (Ecdsa.Secret.ofWide (← machine.random 48))

def child (root : PrivateKey) (index : Int64) : Except Failure PrivateKey :=
  if 0 ≤ index.toInt ∧ index.toInt < UInt32.size then
    (root.derive (UInt32.ofNat index.toInt.toNat)).mapError .child
  else .error (.childIndex index)

def legacyRoot (machine : Machine m) (phrase : Mnemonic) :
    Option String → ExceptT Failure m PrivateKey
  | none => step .legacyKey phrase.legacyKey
  | some path => do
    let table ← step .table (LegacyTable.ofText (← machine.text .wordList path))
    step .legacyKey (phrase.legacyKeyWith table)

def recover (machine : Machine m) (phrase : Mnemonic) (recovery : Recovery)
    (index : Option Int64) : ExceptT Failure m PrivateKey := do
  match recovery with
  | .standard passphrase =>
    let root ← step .standardKey (phrase.privateKey passphrase)
    match index with
    | none => return root
    | some index => step id (child root index)
  | .legacy table =>
    let root ← machine.legacyRoot phrase table
    match index with
    | none => return root
    | some index => step .legacyChild (root.legacyDerive index)

def readKey (text : String) : Except Failure PrivateKey :=
  (PrivateKey.parse (Text.trim text)).mapError .privateKey

def pemText (machine : Machine m) (key : PrivateKey) : (passphrase : Option String) → m String
  | none => return key.toPem
  | some passphrase => do
    let salt ← machine.random 16
    return key.toEncryptedPem passphrase salt (← machine.random 16)

def run (machine : Machine m) : Command → ExceptT Failure m Report
  | .generateKey scheme => do return .key (← machine.newKey scheme)
  | .generatePhrase length => do
    let entropy ← machine.random length.entropyLength
    return .phrase (← step .phrase (Mnemonic.ofEntropy entropy.bytes))
  | .recoverKey phrase recovery index => do
    let phrase ← step .phrase (Mnemonic.parse phrase)
    return .key (← machine.recover phrase recovery index)
  | .encryptKeystore key out passphrase rounds => do
    let key ← step id (readKey key)
    let salt ← machine.random 32
    let start ← machine.random 16
    machine.writeKey out key (Keystore.encrypt key passphrase rounds salt start).text
  | .decryptKeystore file passphrase => do
    let document ← machine.contents .keystore file
    return .key (← step (.keystore file) (Keystore.openBytes document passphrase))
  | .exportPem key out passphrase => do
    let key ← step id (readKey key)
    let text ← machine.pemText key passphrase
    match out with
    | some path => machine.writeKey path key text
    | none => return .pem text
  | .importPem file passphrase => do
    let text ← machine.text .pem file
    return .key (← step (.pem file) (PrivateKey.ofPem text passphrase))
  | .checksum id ledger =>
    match id.checksum with
    | some given =>
      if given = id.checksumOn ledger then return .checksum id ledger
      else throw (.checksum id given ledger)
    | none => return .checksum id ledger

end Machine

/-- What a call of the tool leaves behind besides files. -/
structure Outcome where
  /-- Zero if all went well, one for a failure, two for a wrong command line. -/
  code : UInt32
  output : String
  errors : String
  deriving DecidableEq

def Outcome.ofStop : Stop → Outcome
  | .help => ⟨0, Stop.help.text ++ "\n", ""⟩
  | .version names => ⟨0, (Stop.version names).text ++ "\n", ""⟩
  | stop => ⟨2, "", stop.text ++ "\n"⟩

def Outcome.ofResult (json : Bool) : Except Failure Report → Outcome
  | .ok report => ⟨0, report.printed json, ""⟩
  | .error failure => ⟨1, "", failure.text⟩

def Machine.call {m : Type → Type} [Monad m] (machine : Machine m)
    (environment : String → Option String) (words : List String) : m Outcome :=
  match Invocation.parse environment words with
  | .error stop => return .ofStop stop
  | .ok i => do return .ofResult i.json (← (machine.run i.command).run)

end HbarKit.Keytool
