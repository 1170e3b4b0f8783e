import HbarKit.Bytes.Hex
import HbarKit.Der.Oid
import HbarKit.Der.Tag

/-!
# Faults in distinguished encoding

Why a byte string is not the document asked for. Some faults tell a place: how many bytes were read
before it, counted within the element in which that was noticed.
-/
namespace HbarKit.Der

inductive Cause where
  /-- It ends before something that has to end at `expected`. -/
  | incomplete (expected actual : Nat)
  | trailing (decoded remaining : Nat)
  | tooLong
  /-- A tag has a number of more than one byte, or is a universal one that is not known. -/
  | longTag
  | unknownTag (tag : UInt8)
  /-- An element has another tag than the one asked for, which may go without saying. -/
  | otherTag (expected : Option UInt8) (found : UInt8)
  /-- A length is not told at the start of the element. -/
  | openLength
  /-- The length of an element with a tag is badly written, or cannot be right. -/
  | length (tag : UInt8)
  /-- A value of a kind has another encoding that is the right one. -/
  | notCanonical (tag : UInt8)
  /-- A value of a kind is none of those asked for. -/
  | value (tag : UInt8)
  | badOid
  | unknownOid (oid : Oid)
  deriving DecidableEq, Repr

def Cause.text : Cause → String
  | incomplete expected actual =>
    "ASN.1 DER message is incomplete: expected " ++ Decimal.ofNat expected ++ ", actual " ++
      Decimal.ofNat actual
  | trailing decoded remaining =>
    "trailing data at end of DER message: decoded " ++ Decimal.ofNat decoded ++ " bytes, " ++
      Decimal.ofNat remaining ++ " bytes remaining"
  | tooLong => "integer overflow"
  | longTag => "invalid tag number"
  | unknownTag tag => "unknown/unsupported ASN.1 DER tag: 0x" ++ Hex.encode [tag]
  | otherTag none found => "unexpected ASN.1 DER tag: got " ++ tagName found
  | otherTag (some expected) found =>
    "unexpected ASN.1 DER tag: expected " ++ tagName expected ++ ", got " ++ tagName found
  | openLength => "indefinite length disallowed"
  | length tag => "incorrect length for " ++ tagName tag
  | notCanonical tag => "ASN.1 " ++ tagName tag ++ " not canonically encoded as DER"
  | value tag => "malformed ASN.1 DER value for " ++ tagName tag
  | badOid => "malformed OID"
  | unknownOid oid => "unknown/unsupported OID: " ++ Oid.text oid

/-- What is wrong with a byte string, and at which place if that is told. -/
structure Fault where
  cause : Cause
  place : Option Nat := none
  deriving DecidableEq, Repr

def Fault.text (f : Fault) : String :=
  match f.place with
  | none => f.cause.text
  | some n => f.cause.text ++ " at DER byte " ++ Decimal.ofNat n

end HbarKit.Der
