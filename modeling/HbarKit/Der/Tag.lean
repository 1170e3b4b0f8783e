import HbarKit.Text.Decimal

/-!
# Tags

The first byte of an element tells its kind. Two bits are its class: universal kinds have meanings
of their own, and kinds of the other classes are numbers that a document gives a meaning to. One
bit tells whether the content is made of elements.
-/
namespace HbarKit.Der

def universalTags : List (UInt8 × String) :=
  [(0x01, "BOOLEAN"), (0x02, "INTEGER"), (0x03, "BIT STRING"), (0x04, "OCTET STRING"),
    (0x05, "NULL"), (0x06, "OBJECT IDENTIFIER"), (0x09, "REAL"), (0x0A, "ENUMERATED"),
    (0x0C, "UTF8String"), (0x12, "NumericString"), (0x13, "PrintableString"),
    (0x14, "TeletexString"), (0x15, "VideotexString"), (0x16, "IA5String"), (0x17, "UTCTime"),
    (0x18, "GeneralizedTime"), (0x1A, "VisibleString"), (0x1E, "BMPString"), (0x30, "SEQUENCE"),
    (0x31, "SET")]

def isUniversal (tag : UInt8) : Bool := tag < 0x40

def isContextTag (tag : UInt8) : Bool := 0x80 ≤ tag && tag < 0xC0

def tagNumber (tag : UInt8) : UInt8 := tag % 32

/-- The number that says that a longer number follows, which is not admitted. -/
def longNumber : UInt8 := 31

/-- A tag is a known universal one, or one of another class with a number below 31. -/
def isTag (b : UInt8) : Bool :=
  if isUniversal b then (universalTags.lookup b).isSome else tagNumber b != longNumber

def tagName (tag : UInt8) : String :=
  match universalTags.lookup tag with
  | some name => name
  | none =>
    (if tag < 0x80 then "APPLICATION" else if tag < 0xC0 then "CONTEXT-SPECIFIC" else "PRIVATE") ++
      " [" ++ Decimal.ofNat (tagNumber tag).toNat ++
      (if tag % 64 < 32 then "] (primitive)" else "] (constructed)")

end HbarKit.Der
