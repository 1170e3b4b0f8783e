import HbarKit.Entity.Checksum
import HbarKit.Text.Quoted
import HbarKit.Text.Split

/-!
# Entity identifiers

Accounts, tokens, files and topics are addressed by three numbers. A written identifier may carry
a checksum; the checksum is kept as it was written, is no part of which entity is meant, and is
judged only when a ledger is named.
-/
namespace HbarKit

inductive EntityError where
  | malformed (text : String)
  | checksumMismatch (given expected : String) (ledger : Ledger)
  | unknownLedger (name : String)
  deriving DecidableEq, Repr

def EntityError.message : EntityError → String
  | malformed text => "malformed entity id: " ++ Text.quoted text
  | checksumMismatch given expected ledger =>
    "network mismatch or wrong checksum given, given checksum: " ++ given ++
      ", correct checksum " ++ expected ++ ", network: " ++ ledger.name
  | unknownLedger name => "unknown network name: " ++ Text.quoted name

def Ledger.parse (s : String) : Except EntityError Ledger :=
  match Ledger.ofName? s with
  | some l => .ok l
  | none => .error (.unknownLedger s)

structure Address where
  shard : UInt64
  realm : UInt64
  num : UInt64
  deriving DecidableEq, Repr, Hashable

namespace Address

def compare (a b : Address) : Ordering :=
  (Ord.compare a.shard b.shard).then
    ((Ord.compare a.realm b.realm).then (Ord.compare a.num b.num))

def chars (a : Address) : List Char :=
  Checksum.addressChars a.shard.toNat a.realm.toNat a.num.toNat

end Address

/-- An identifier: the address of an entity and the checksum it was written with. -/
structure EntityId where
  address : Address
  checksum : Option String
  deriving DecidableEq, Repr

namespace EntityId

/-- The entity of a number in the first realm of the first shard. -/
def ofNum (num : UInt64) : EntityId := ⟨⟨0, 0, num⟩, none⟩

def bare (id : EntityId) : EntityId := ⟨id.address, none⟩

/-- Whether two identifiers mean one entity. -/
def same (a b : EntityId) : Bool := a.address == b.address

def text (id : EntityId) : String := String.ofList id.address.chars

/-- The written identifier with the checksum it carries, between quotes. -/
def debugText (id : EntityId) : String :=
  match id.checksum with
  | some c => "\"" ++ id.text ++ "-" ++ c ++ "\""
  | none => "\"" ++ id.text ++ "\""

def checksumOn (id : EntityId) (l : Ledger) : String :=
  Checksum.compute l id.address.shard.toNat id.address.realm.toNat id.address.num.toNat

def textOn (id : EntityId) (l : Ledger) : String := id.text ++ "-" ++ id.checksumOn l

/-- A checksum that is carried has to be the one of the ledger. -/
def validate (id : EntityId) (l : Ledger) : Except EntityError Unit :=
  match id.checksum with
  | none => .ok ()
  | some given =>
    if given = id.checksumOn l then .ok ()
    else .error (.checksumMismatch given (id.checksumOn l) l)

/-- The identifiers of a list in order, up to the first that does not validate. -/
def validateAll (ids : List EntityId) (l : Ledger) : Except EntityError Unit :=
  ids.forM fun id => id.validate l

/-- A number of an address: decimal digits that stay below 2⁶⁴. -/
def number? (cs : List Char) : Option UInt64 := do
  let n ← Decimal.natural? cs
  if n < UInt64.size then return UInt64.ofNat n else none

def address? (cs : List Char) : Option Address :=
  match Text.pieces '.' cs with
  | [shard, realm, num] => do
    return ⟨← number? shard, ← number? realm, ← number? num⟩
  | _ => none

/-- A written checksum is a nonempty run of lowercase ASCII letters of any length. -/
def isSuffix (cs : List Char) : Bool := !cs.isEmpty && cs.all fun c => 'a' ≤ c && c ≤ 'z'

def ofChars? (cs : List Char) : Option EntityId :=
  match Text.cut '-' cs with
  | some (address, suffix) =>
    if isSuffix suffix then do return ⟨← address? address, some (String.ofList suffix)⟩ else none
  | none => do return ⟨← address? cs, none⟩

def parse (s : String) : Except EntityError EntityId :=
  match ofChars? s.toList with
  | some id => .ok id
  | none => .error (.malformed s)

end EntityId

end HbarKit
