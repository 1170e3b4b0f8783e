import HbarKit.Der.Fault

/-!
# Reading distinguished encoding

A reader takes bytes from the front of what is left of an element. Two counts go with it: the bytes
read of the element and those read of the whole byte string. Lengths are as short as they can be,
and what is read has to be used up to the last byte at every level.
-/
namespace HbarKit.Der

/-- What is left of an element, how much of it was read, and how much of the whole byte string. -/
structure Cursor where
  position : Nat
  offset : Nat
  bytes : Bytes
  deriving DecidableEq

def Cursor.skip (c : Cursor) (n : Nat) : Cursor := ⟨c.position + n, c.offset + n, c.bytes.drop n⟩

/-- A fault, and how much of the whole byte string was read when it was noticed. -/
structure Refusal where
  fault : Fault
  offset : Nat
  deriving DecidableEq, Repr

abbrev Reader (α : Type) := StateT Cursor (Except Refusal) α

def refuse (cause : Cause) : Reader α := fun c => .error ⟨⟨cause, none⟩, c.offset⟩

/-- Goes on with a result that was found without reading any further. -/
def settle (result : Except Fault α) : Reader α := fun c =>
  match result with
  | .ok a => .ok (a, c)
  | .error fault => .error ⟨fault, c.offset⟩

/-- No element is longer, nor any document. -/
def maxLength : Nat := 0x0fffffff

def refuseShort (n : Nat) : Reader α := fun c =>
  let fault :=
    if maxLength < c.offset + n then ⟨.tooLong, none⟩
    else ⟨.incomplete (c.offset + n) (c.offset + c.bytes.length), some c.offset⟩
  .error ⟨fault, c.offset⟩

def take (n : Nat) : Reader Bytes := fun c =>
  if n ≤ c.bytes.length then .ok (c.bytes.take n, c.skip n) else refuseShort n c

def byte : Reader UInt8 := fun c =>
  match c.bytes with
  | b :: _ => .ok (b, c.skip 1)
  | [] => refuseShort 1 c

def rest : Reader Bytes := fun c => .ok (c.bytes, c.skip c.bytes.length)

def checkTag (b : UInt8) : Reader Unit := do
  if !isTag b then refuse (if tagNumber b = longNumber then .longTag else .unknownTag b)

def peekTag : Reader (Option UInt8) := do
  match (← get).bytes with
  | [] => return none
  | b :: _ =>
    checkTag b
    return some b

/-- The number in the next `count` bytes, which are read one after another. -/
def bigEndian : (count value : Nat) → Reader Nat
  | 0, value => return value
  | count + 1, value => do bigEndian count (value * 256 + (← byte).toNat)

/-- The length of an element with a tag: itself when below 128, else the count of its bytes and
these bytes, without a zero in front. -/
def length (tag : UInt8) : Reader Nat := do
  let b ← byte
  if b < 0x80 then return b.toNat
  else if b = 0x80 then refuse .openLength
  else if 0x84 < b then refuse (.length tag)
  else
    let count := b.toNat - 0x80
    let n ← bigEndian count 0
    if maxLength < n then refuse .tooLong
    else if n < 0x80 ∨ n < Nat.pow 256 (count - 1) then refuse (.length tag)
    else return n

def header : Reader (UInt8 × Nat) := do
  let tag ← byte
  checkTag tag
  return (tag, ← length tag)

/-- A reader at the start of an element, which has to use it up. -/
def exhaust (r : Reader α) : Reader α := do
  let a ← r
  fun c =>
    if c.bytes.isEmpty then .ok (a, c)
    else .error ⟨⟨.trailing c.position c.bytes.length, some c.position⟩, c.offset⟩

def nested (n : Nat) (r : Reader α) : Reader α := fun c =>
  if n ≤ c.bytes.length then do
    let (a, _) ← exhaust r ⟨0, c.offset, c.bytes.take n⟩
    return (a, c.skip n)
  else refuseShort n c

def whole (r : Reader α) (b : Bytes) : Except Fault α :=
  match exhaust r ⟨0, 0, b⟩ with
  | .ok (a, _) => .ok a
  | .error refusal => .error refusal.fault

def whole? (r : Reader α) (b : Bytes) : Option α := (whole r b).toOption

/-- A reader whose faults are told with their places: how much of the element was read when the
fault was noticed, and the place that the fault tells by itself. -/
def located (r : Reader α) : Reader α := fun c =>
  (r c).mapError fun refusal =>
    let place := c.position + (refusal.offset - c.offset) + refusal.fault.place.getD 0
    { refusal with fault := { refusal.fault with place := some place } }

def tagged (tag : UInt8) (content : Reader α) : Reader α := do
  let (found, n) ← header
  if found ≠ tag then refuse (.otherTag (some tag) found)
  nested n content

end HbarKit.Der
