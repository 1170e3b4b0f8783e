import HbarKit.Mnemonic.Crc
import HbarKit.Mnemonic.Error
import HbarKit.Mnemonic.Radix
import HbarKit.Text.Blank
import HbarKit.Text.Lowercase

/-!
# Phrases of the old kind

Twenty-two words of a table of 4096 stand for 33 bytes: a check byte comes last, and the 32 bytes
before it are added to it one by one.
-/
namespace HbarKit

structure LegacyTable where
  words : List String
  length_eq : words.length = 4096
  nodup : words.Nodup

namespace LegacyTable

def phraseLength : Nat := 22

def ofWords (words : List String) : Except MnemonicError LegacyTable :=
  let words := words.map Text.lowercase
  if h : words.length = 4096 ∧ words.Nodup then .ok ⟨words, h.1, h.2⟩
  else .error (.wordTable words.length)

def ofText (text : String) : Except MnemonicError LegacyTable := ofWords (Text.words text)

def debugText (t : LegacyTable) : String :=
  "LegacyWordList(" ++ Decimal.ofNat t.words.length ++ " words)"

def word (t : LegacyTable) (index : Nat) : String := t.words.getD index ""

def index (t : LegacyTable) (word : String) : Except MnemonicError Nat :=
  match t.words.idxOf? word with
  | some i => .ok i
  | none => .error (.unknownWord word)

def encode (t : LegacyTable) (entropy : Octets 32) : List String :=
  let check := Crc.check entropy.bytes
  let block := entropy.bytes.map (· ^^^ check) ++ [check]
  (Radix.convert 256 4096 phraseLength (block.map UInt8.toNat)).map t.word

/-- The 33 bytes that places in the table stand for. -/
def block (indices : List Nat) : Bytes :=
  (Radix.convert 4096 256 33 indices).map UInt8.ofNat

def decode (t : LegacyTable) (words : List String) : Except MnemonicError (Octets 32) := do
  if words.length ≠ phraseLength then throw (.wordCount words.length)
  let data := block (← words.mapM t.index)
  let check := data.getD 32 0
  let entropy : Octets 32 := ⟨(data.take 32).map (· ^^^ check), by simp [data, block]⟩
  if Crc.check entropy.bytes = check then return entropy else throw .checksum

end LegacyTable

end HbarKit
