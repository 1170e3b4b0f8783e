import HbarKit.Keytool.Value

/-!
# The verbs of the tool

The tool does one thing a call. Each verb has a path of one or two names, options of its own and
the options that go with every verb.
-/
namespace HbarKit.Keytool

structure OptionRule where
  /-- The name behind two dashes. -/
  name : String
  /-- The letter behind one dash. -/
  letter : Option Char := none
  /-- What kind of value it takes, unless it stands alone. -/
  kind : Option ValueKind := some .text
  allowsNegative : Bool := false
  /-- The variable of the environment that stands in for the option. -/
  source : Option String := none
  deriving DecidableEq

inductive Verb where
  | generateKey
  | generatePhrase
  | recoverKey
  | encryptKeystore
  | decryptKeystore
  | exportPem
  | importPem
  | checksum
  deriving DecidableEq

/-- The options that go with every verb: the form of log lines, of which the tool has none, and
whether results are printed as JSON. -/
def commonRules : List OptionRule :=
  [{ name := "log-format", kind := some .logFormat }, { name := "json", kind := none }]

namespace Verb

def all : List Verb :=
  [generateKey, generatePhrase, recoverKey, encryptKeystore, decryptKeystore, exportPem, importPem,
    checksum]

def path : Verb → List String
  | generateKey => ["generate"]
  | generatePhrase => ["mnemonic", "generate"]
  | recoverKey => ["mnemonic", "to-key"]
  | encryptKeystore => ["keystore", "encrypt"]
  | decryptKeystore => ["keystore", "decrypt"]
  | exportPem => ["pem", "export"]
  | importPem => ["pem", "import"]
  | checksum => ["checksum"]

def ofPath? (names : List String) : Option Verb := all.find? fun v => v.path = names

/-- Whether more names may follow some names. -/
def isGroup (names : List String) : Bool := all.any fun v => names.isPrefixOf v.path

def keyRule : OptionRule := { name := "key", source := some "LEDGER_PRIVATE_KEY" }

def outRule : OptionRule := { name := "out", letter := some 'o', kind := some .path }

def fileRule : OptionRule := { name := "file", letter := some 'f', kind := some .path }

def passphraseRule (source : String) : OptionRule := { name := "passphrase", source := some source }

def rules : Verb → List OptionRule
  | generateKey => [{ name := "scheme", letter := some 's', kind := some .scheme }]
  | generatePhrase => [{ name := "words", letter := some 'w', kind := some .phraseLength }]
  | recoverKey =>
    [{ name := "phrase", source := some "LEDGER_MNEMONIC" },
      passphraseRule "LEDGER_MNEMONIC_PASSPHRASE",
      { name := "legacy", kind := none },
      { name := "word-list", kind := some .path },
      { name := "index", letter := some 'i', kind := some .index, allowsNegative := true }]
  | encryptKeystore =>
    [keyRule, outRule, passphraseRule "LEDGER_KEYSTORE_PASSPHRASE",
      { name := "rounds", kind := some .rounds }]
  | decryptKeystore => [fileRule, passphraseRule "LEDGER_KEYSTORE_PASSPHRASE"]
  | exportPem => [keyRule, outRule, passphraseRule "LEDGER_PEM_PASSPHRASE"]
  | importPem => [fileRule, passphraseRule "LEDGER_PEM_PASSPHRASE"]
  | checksum => [{ name := "network", letter := some 'n', kind := some .ledger }]

def operandKinds : Verb → List ValueKind
  | checksum => [.entity]
  | _ => []

def sources : List String := (all.flatMap fun v => v.rules.filterMap OptionRule.source).eraseDups

end Verb

end HbarKit.Keytool
