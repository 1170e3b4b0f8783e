import HbarKit.Entity.Id
import HbarKit.Key.Scheme

/-!
# Values on a command line

What the words of a command line stand for where they are values, and what kind of value an option
or an operand asks for. Texts of keys, phrases and passphrases may be anything.
-/
namespace HbarKit.Keytool

inductive PhraseLength where
  | twelve
  | twentyFour
  deriving DecidableEq

def PhraseLength.ofName? (s : String) : Option PhraseLength :=
  if s = "12" then some twelve else if s = "24" then some twentyFour else none

def PhraseLength.entropyLength : PhraseLength → Nat
  | twelve => 16
  | twentyFour => 32

def anyText? (s : String) : Option String := some s

def path? (s : String) : Option String := if s.isEmpty then none else some s

def index? (s : String) : Option Int64 :=
  (Decimal.signed? Int64.minValue.toInt Int64.maxValue.toInt s.toList).map Int64.ofInt

/-- A number of rounds: zero may have a sign of either kind. -/
def rounds? (s : String) : Option UInt32 :=
  (Decimal.signed? 0 (UInt32.size - 1) s.toList).map fun n => UInt32.ofNat n.toNat

def entity? (s : String) : Option EntityId := (EntityId.parse s).toOption

def logFormats : List String := ["pretty", "json"]

inductive ValueKind where
  | text
  | path
  | logFormat
  | scheme
  | phraseLength
  | index
  | rounds
  | ledger
  | entity
  deriving DecidableEq

def ValueKind.admits (s : String) : ValueKind → Bool
  | text => (anyText? s).isSome
  | path => (path? s).isSome
  | logFormat => logFormats.contains s
  | scheme => (Scheme.ofName? s).isSome
  | phraseLength => (PhraseLength.ofName? s).isSome
  | index => (index? s).isSome
  | rounds => (rounds? s).isSome
  | ledger => (Ledger.ofName? s).isSome
  | entity => (entity? s).isSome

end HbarKit.Keytool
