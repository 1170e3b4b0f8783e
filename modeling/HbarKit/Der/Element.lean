import HbarKit.Der.Reader

/-!
# Elements

A document is a tree of elements, each a tag, a length and so many bytes of content. Every value
has one encoding only.
-/
namespace HbarKit.Der

structure Element where
  tag : UInt8
  content : Bytes
  deriving DecidableEq

def element : Reader Element := do
  let (tag, n) ← header
  return ⟨tag, ← take n⟩

def sequence (content : Reader α) : Reader α := tagged 0x30 content

def Element.sequence (e : Element) (content : Reader α) : Except Fault α :=
  if e.tag = 0x30 then whole content e.content
  else .error ⟨.otherTag (some 0x30) e.tag, none⟩

def octetString : Reader Bytes := tagged 0x04 rest

/-- The bytes of an unsigned number, without a zero in front except to keep the first bit clear. -/
def unsignedContent : Bytes → Except Cause Bytes
  | [] => .error (.notCanonical 0x02)
  | [0] => .ok [0]
  | b :: c :: more =>
    if b = 0 then if c < 0x80 then .error (.notCanonical 0x02) else .ok (c :: more)
    else if b < 0x80 then .ok (b :: c :: more) else .error (.value 0x02)
  | [b] => if b < 0x80 then .ok [b] else .error (.value 0x02)

def unsigned (width : Nat) : Reader Nat := do
  match unsignedContent (← tagged 0x02 rest) with
  | .ok b => if b.length ≤ width then return Bytes.toNatBE b else refuse (.length 0x02)
  | .error cause => refuse cause

def bitContent : Reader (Nat × Bytes) := do
  let unused ← byte
  let b ← rest
  if 7 < unused ∨ (b.isEmpty ∧ unused ≠ 0) then refuse (.value 0x03)
  return (unused.toNat, b)

/-- The bytes of a bit string, the unused bits of the last one included. -/
def bitString : Reader Bytes := do return (← tagged 0x03 bitContent).2

def wholeBitContent : Reader Bytes := do
  let (unused, b) ← bitContent
  if unused ≠ 0 then refuse (.value 0x03)
  return b

/-- An element read only if there is one, with a tag that fits. -/
def optional (fits : UInt8 → Bool) (r : Reader α) : Reader (Option α) := do
  match ← peekTag with
  | some tag => if fits tag then return some (← r) else return none
  | none => return none

/-- The optional field with a number. Context-specific elements with lower numbers before it are
passed over. -/
def field (number : UInt8) (r : Reader α) : Reader (Option α) := do
  go (← get).bytes.length
where
  /-- As many elements as a number says may still be passed over. -/
  go : Nat → Reader (Option α)
    | 0 => return none
    | fuel + 1 => do
      match ← peekTag with
      | none => return none
      | some tag =>
        if !isContextTag tag || number < tagNumber tag then return none
        else if tagNumber tag = number then return some (← r)
        else
          let _ ← element
          go fuel

def explicitField (number : UInt8) (r : Reader α) : Reader (Option α) :=
  field number (tagged (0xA0 + number) r)

/-- A field whose tag stands in the place of the one of a primitive value. -/
def implicitField (number : UInt8) (content : Reader α) : Reader (Option α) :=
  field number (tagged (0x80 + number) content)

/-- Fields of any number, each with one element inside, up to the end. -/
def anyFields : Reader Unit := do go (← get).bytes.length
where
  go : Nat → Reader Unit
    | 0 => return ()
    | fuel + 1 => do
      match ← peekTag with
      | none => return ()
      | some tag =>
        if 0xA0 ≤ tag ∧ tag < 0xC0 then
          let _ ← tagged tag element
          go fuel
        else refuse (.otherTag none tag)

def encodeLength (n : Nat) : Bytes :=
  if n < 0x80 then [UInt8.ofNat n]
  else if n < 0x100 then [0x81, UInt8.ofNat n]
  else 0x82 :: Bytes.ofNatBE 2 n

/-- The bytes of an element with content shorter than 64 KiB. -/
def encode (tag : UInt8) (content : Bytes) : Bytes :=
  tag :: (encodeLength content.length ++ content)

end HbarKit.Der
