import HbarKit.Key.Scheme
import HbarKit.Text.Quoted

/-!
# Phrase errors

Why a phrase, a word table or the making of a key from a phrase is refused.
-/
namespace HbarKit

inductive MnemonicError where
  | checksum
  | unknownWord (word : String)
  | wordCount (count : Nat)
  /-- A table of so many words that are not 4096 distinct ones. -/
  | wordTable (count : Nat)
  | tableRequired
  | legacyOnly
  | malformed (reason : String)
  | key (error : KeyError)
  deriving DecidableEq, Repr

def MnemonicError.message : MnemonicError → String
  | checksum => "mnemonic checksum mismatch"
  | unknownWord word => "unknown mnemonic word: " ++ Text.quoted word
  | wordCount count => "invalid mnemonic length: " ++ Decimal.ofNat count ++ " words"
  | wordTable count =>
    "legacy word list must have 4096 distinct words, got " ++ Decimal.ofNat count
  | tableRequired => "22-word legacy phrase requires a legacy word list to decode"
  | legacyOnly => "22-word phrases only support legacy derivation"
  | malformed reason => "malformed mnemonic: " ++ reason
  | key error => error.message

end HbarKit
