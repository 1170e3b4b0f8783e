import HbarKit.Hash.Hmac
import HbarKit.Hash.Sha256
import HbarKit.Hash.Sha512
import HbarKit.Mnemonic.EnglishWords
import HbarKit.Mnemonic.Error
import HbarKit.Mnemonic.Radix
import HbarKit.Text.Blank
import HbarKit.Text.Decomposition

/-!
# Standard phrases

A phrase of 12, 15, 18, 21 or 24 English words stands for four bytes of entropy per three words,
and one more bit per three words that checks the entropy against its SHA-256 digest.
-/
namespace HbarKit

structure StandardPhrase where
  words : List String
  entropy : Bytes
  deriving DecidableEq

namespace StandardPhrase

def wordCounts : List Nat := [12, 15, 18, 21, 24]

/-- The leading bits of the digest of some entropy. -/
def checkBits (bits : Nat) (entropy : Bytes) : Nat :=
  ((Hash.sha256.digest entropy).headD 0).toNat / Nat.pow 2 (8 - bits)

def ofEntropy (entropy : Bytes) : Except MnemonicError StandardPhrase :=
  let bits := entropy.length / 4
  if entropy.length = 4 * bits ∧ 3 * bits ∈ wordCounts then
    let n := Bytes.toNatBE entropy * Nat.pow 2 bits + checkBits bits entropy
    .ok ⟨(Radix.digits 2048 (3 * bits) n).map EnglishWords.word, entropy⟩
  else .error (.malformed ("invalid keysize: " ++ Decimal.ofNat (8 * entropy.length)))

/-- The parts of a text: its words in their compatibility decomposition, which a blank that the
decomposition brings about divides further. A text without words has one empty part. -/
def parts (text : List Char) : List String :=
  let words := (Text.wordsAfter [] text).map Text.decomposeChars
  (Text.pieces ' ' (Text.join [' '] words)).map String.ofList

inductive Refusal where
  | unknownWord
  | wordCount (count : Nat)
  | checksum
  deriving DecidableEq

/-- The phrase that a text is. Words are looked up before they are counted. -/
def ofText (text : List Char) : Except Refusal StandardPhrase :=
  let words := parts text
  match words.mapM EnglishWords.index? with
  | none => .error .unknownWord
  | some indices =>
    if words.length ∈ wordCounts then
      let bits := words.length / 3
      let n := Radix.value 2048 indices
      let entropy := Bytes.ofNatBE (4 * bits) (n / Nat.pow 2 bits)
      if n % Nat.pow 2 bits = checkBits bits entropy then .ok ⟨words, entropy⟩ else .error .checksum
    else .error (.wordCount words.length)

def isKnown (word : String) : Bool := ((parts word.toList).mapM EnglishWords.index?).isSome

/-- The phrase that given words are together. A word that holds blanks counts as several. -/
def ofWords (words : List String) : Except MnemonicError StandardPhrase :=
  match ofText (Text.join [' '] (words.map String.toList)) with
  | .ok phrase => .ok phrase
  | .error .checksum => .error .checksum
  | .error (.wordCount count) => .error (.wordCount count)
  | .error .unknownWord =>
    match words.find? fun w => !isKnown w with
    | some w => .error (.unknownWord w)
    | none => .error (.malformed "invalid word in phrase")

def text (p : StandardPhrase) : List Char := Text.join [' '] (p.words.map String.toList)

def seed (p : StandardPhrase) (passphrase : String) : Bytes :=
  let salt := Text.decompose ("mnemonic" ++ passphrase)
  Hash.pbkdf2 Hash.sha512 (Bytes.ofString (String.ofList p.text)) (Bytes.ofString salt) 2048 64

end StandardPhrase

end HbarKit
