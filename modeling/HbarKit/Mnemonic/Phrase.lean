import HbarKit.Key.Private
import HbarKit.Mnemonic.LegacyTable
import HbarKit.Mnemonic.StandardPhrase

/-!
# Phrases

A phrase is a standard one, or one of the old kind, whose words are looked up only when a table is
given. The number of words tells the two apart.
-/
namespace HbarKit

inductive Mnemonic where
  | standard (phrase : StandardPhrase)
  | legacy (words : List String)
  deriving DecidableEq

namespace Mnemonic

def ofEntropy (entropy : Bytes) : Except MnemonicError Mnemonic := do
  return standard (← StandardPhrase.ofEntropy entropy)

/-- A word in lowercase without blanks around it. -/
def tidy (word : String) : String := Text.lowercase (Text.trim word)

def ofWords (words : List String) : Except MnemonicError Mnemonic :=
  let words := words.map tidy
  if words.length = 12 ∨ words.length = 24 then do
    return standard (← StandardPhrase.ofWords words)
  else if words.length = LegacyTable.phraseLength then .ok (legacy words)
  else .error (.wordCount words.length)

def parse (s : String) : Except MnemonicError Mnemonic := ofWords (Text.words s)

def words : Mnemonic → List String
  | standard phrase => phrase.words
  | legacy words => words

def isLegacy : Mnemonic → Bool
  | standard _ => false
  | legacy _ => true

def text (m : Mnemonic) : String := String.ofList (Text.join [' '] (m.words.map String.toList))

/-- The kind and the length of the phrase, for people; the words are not shown. -/
def debugText (m : Mnemonic) : String :=
  "Mnemonic(" ++ (if m.isLegacy then "legacy" else "standard") ++ ", " ++
    Decimal.ofNat m.words.length ++ " words)"

def seed (m : Mnemonic) (passphrase : String) : Except MnemonicError Bytes :=
  match m with
  | standard phrase => .ok (phrase.seed passphrase)
  | legacy _ => .error .legacyOnly

def privateKey (m : Mnemonic) (passphrase : String) : Except MnemonicError PrivateKey := do
  return .ofNode ((ChainNode.ofSeed (← m.seed passphrase)).descend ChainNode.accountPath)

/-- The root key of the old kind: the entropy of a phrase of 24 words. -/
def legacyKey (m : Mnemonic) : Except MnemonicError PrivateKey :=
  match m with
  | standard phrase =>
    match Octets.ofBytes? 32 phrase.entropy with
    | some seed => .ok (.ofSeed seed)
    | none => .error (.wordCount m.words.length)
  | legacy _ => .error .tableRequired

def legacyKeyWith (m : Mnemonic) (table : LegacyTable) : Except MnemonicError PrivateKey :=
  match m with
  | standard _ => m.legacyKey
  | legacy words => do return .ofSeed (← table.decode words)

end Mnemonic

end HbarKit
