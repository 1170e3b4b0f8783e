import HbarKit.Keytool.Arguments

/-!
# Commands

A command is a verb with all that it needs. Texts of keys and phrases are still unread, for a fault
in them is not one of the command line.
-/
namespace HbarKit.Keytool

inductive Recovery where
  /-- Along the account path, with a passphrase. -/
  | standard (passphrase : String)
  /-- The old way, with the file of a word table if the phrase needs one. -/
  | legacy (table : Option String)
  deriving DecidableEq

inductive Command where
  | generateKey (scheme : Scheme)
  | generatePhrase (length : PhraseLength)
  | recoverKey (phrase : String) (recovery : Recovery) (index : Option Int64)
  | encryptKeystore (key out passphrase : String) (rounds : UInt32)
  | decryptKeystore (file passphrase : String)
  /-- Writes a key as a text block to a file or to the output, encrypted under a passphrase. -/
  | exportPem (key : String) (out passphrase : Option String)
  | importPem (file : String) (passphrase : Option String)
  | checksum (id : EntityId) (ledger : Ledger)
  deriving DecidableEq

def defaultRounds : UInt32 := 262144

def Command.ofArguments (a : Arguments) : Except Stop Command := do
  match a.verb with
  | .generateKey => return .generateKey ((← a.value? "scheme" Scheme.ofName?).getD .ed25519)
  | .generatePhrase =>
    return .generatePhrase ((← a.value? "words" PhraseLength.ofName?).getD .twentyFour)
  | .recoverKey =>
    let phrase ← a.value "phrase" anyText?
    let index ← a.value? "index" index?
    let table ← a.value? "word-list" path?
    if a.has "legacy" then return .recoverKey phrase (.legacy table) index
    else if table.isSome then throw (.alone "word-list" "legacy")
    else return .recoverKey phrase (.standard ((a.text? "passphrase").getD "")) index
  | .encryptKeystore =>
    let key ← a.value "key" anyText?
    let out ← a.value "out" path?
    let passphrase ← a.value "passphrase" anyText?
    return .encryptKeystore key out passphrase ((← a.value? "rounds" rounds?).getD defaultRounds)
  | .decryptKeystore =>
    return .decryptKeystore (← a.value "file" path?) (← a.value "passphrase" anyText?)
  | .exportPem =>
    return .exportPem (← a.value "key" anyText?) (← a.value? "out" path?) (a.text? "passphrase")
  | .importPem => return .importPem (← a.value "file" path?) (a.text? "passphrase")
  | .checksum =>
    let id ← a.operand entity?
    return .checksum id ((← a.value? "network" Ledger.ofName?).getD .mainnet)

structure Invocation where
  command : Command
  json : Bool
  deriving DecidableEq

def Invocation.parse (environment : String → Option String) (words : List String) :
    Except Stop Invocation := do
  let a ← Arguments.parse environment words
  return ⟨← Command.ofArguments a, a.json⟩

end HbarKit.Keytool
