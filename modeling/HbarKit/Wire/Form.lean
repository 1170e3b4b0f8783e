import HbarKit.Bytes
import HbarKit.Json.Value

/-!
# Forms of messages

A form tells how the values of a type are written, as bytes and as JSON, and read again. Numbers
take a fixed number of bytes, the least significant first; texts, byte strings and lists have their
length in eight bytes before them; a choice has its number in four bytes before it. A reader takes
bytes from the front and leaves the rest.
-/
namespace HbarKit.Wire

structure Form (α : Type) where
  write : α → Bytes
  read : Bytes → Option (α × Bytes)
  toJson : α → Json
  ofJson : Json → Option α

def splitAt? (n : Nat) (b : Bytes) : Option (Bytes × Bytes) :=
  if n ≤ b.length then some (b.take n, b.drop n) else none

def readNat (width : Nat) (b : Bytes) : Option (Nat × Bytes) :=
  (splitAt? width b).map fun (front, rest) => (Bytes.toNatLE front, rest)

namespace Form

def map (f : Form α) (there : α → β) (back : β → α) : Form β where
  write b := f.write (back b)
  read bytes := (f.read bytes).map fun (a, rest) => (there a, rest)
  toJson b := f.toJson (back b)
  ofJson j := (f.ofJson j).map there

def unsigned64 : Form UInt64 where
  write n := Bytes.ofNatLE 8 n.toNat
  read b := (readNat 8 b).map fun (n, rest) => (UInt64.ofNat n, rest)
  toJson n := .nat n.toNat
  ofJson j := (j.nat? (UInt64.size - 1)).map UInt64.ofNat

def signed64 : Form Int64 where
  write n := Bytes.ofNatLE 8 n.toUInt64.toNat
  read b := (readNat 8 b).map fun (n, rest) => ((UInt64.ofNat n).toInt64, rest)
  toJson n := .integer n.toInt
  ofJson j := (j.int? Int64.minValue.toInt Int64.maxValue.toInt).map Int64.ofInt

/-- A byte string behind its length. -/
def bytes : Form Bytes where
  write b := Bytes.ofNatLE 8 b.length ++ b
  read b := do
    let (n, b) ← readNat 8 b
    splitAt? n b
  toJson := Json.byteArray
  ofJson := Json.bytes?

def text : Form String where
  write s := bytes.write (Bytes.ofString s)
  read b := do
    let (front, rest) ← bytes.read b
    return (← Bytes.toString? front, rest)
  toJson := .string
  ofJson := Json.text?

/-- Values of a type by their text. -/
def textual (display : α → String) (parse : String → Option α) : Form α where
  write a := text.write (display a)
  read b := do
    let (s, rest) ← text.read b
    return (← parse s, rest)
  toJson a := .string (display a)
  ofJson j := do parse (← j.text?)

def readMany (read : Bytes → Option (α × Bytes)) : (count : Nat) → Bytes → Option (List α × Bytes)
  | 0, b => some ([], b)
  | count + 1, b => do
    let (a, b) ← read b
    let (more, b) ← readMany read count b
    return (a :: more, b)

def list (f : Form α) : Form (List α) where
  write as := Bytes.ofNatLE 8 as.length ++ as.flatMap f.write
  read b := do
    let (n, b) ← readNat 8 b
    readMany f.read n b
  toJson as := .array (as.map f.toJson)
  ofJson j := do (← j.items?).mapM f.ofJson

/-- A value that may be absent, behind a byte that tells. -/
def option (f : Form α) : Form (Option α) where
  write
    | none => [0]
    | some a => 1 :: f.write a
  read
    | 0 :: rest => some (none, rest)
    | 1 :: rest => (f.read rest).map fun (a, rest) => (some a, rest)
    | _ => none
  toJson := Json.optional f.toJson
  ofJson
    | .null => some none
    | j => (f.ofJson j).map some

end Form

structure Fields (α : Type) where
  write : α → Bytes
  read : Bytes → Option (α × Bytes)
  members : α → List (String × Json)
  ofMembers : Json → Option α
  ofItems : List Json → Option (α × List Json)

namespace Fields

def one (name : String) (f : Form α) : Fields α where
  write := f.write
  read := f.read
  members a := [(name, f.toJson a)]
  ofMembers j := do f.ofJson (← j.member? name)
  ofItems
    | [] => none
    | j :: rest => (f.ofJson j).map fun a => (a, rest)

/-- A field that may be absent; as a member of an object it may also be left out. -/
def maybe (name : String) (f : Form α) : Fields (Option α) :=
  { one name f.option with
    ofMembers := fun j =>
      match j.member? name with
      | none => some none
      | some v => f.option.ofJson v }

def and (a : Fields α) (b : Fields β) : Fields (α × β) where
  write v := a.write v.1 ++ b.write v.2
  read bytes := do
    let (x, bytes) ← a.read bytes
    let (y, bytes) ← b.read bytes
    return ((x, y), bytes)
  members v := a.members v.1 ++ b.members v.2
  ofMembers j := do return (← a.ofMembers j, ← b.ofMembers j)
  ofItems js := do
    let (x, js) ← a.ofItems js
    let (y, js) ← b.ofItems js
    return ((x, y), js)

/-- A record by its fields. In JSON it is an object, or when read an array of all fields. -/
def form (fs : Fields α) : Form α where
  write := fs.write
  read := fs.read
  toJson a := .object (fs.members a)
  ofJson
    | .object members => fs.ofMembers (.object members)
    | .array items => do
      let (a, rest) ← fs.ofItems items
      if rest.isEmpty then return a else none
    | _ => none

end Fields

/-- One of the cases that a value may be. Its number is written by the choice it belongs to. -/
structure Case (α : Type) where
  write : α → Bytes
  read : Bytes → Option (α × Bytes)
  toJson : α → Json
  ofJson : Json → Option α

namespace Case

def only? (name : String) : Json → Option Json
  | .object [(n, j)] => if n = name then some j else none
  | _ => none

/-- A case that holds nothing: its name, or its name with `null`. -/
def empty (name : String) : Case Unit where
  write _ := []
  read b := some ((), b)
  toJson _ := .string name
  ofJson
    | .string s => if s = name then some () else none
    | j =>
      match only? name j with
      | some .null => some ()
      | _ => none

/-- A case that holds a value: its name with the value. -/
def holding (name : String) (f : Form α) : Case α where
  write := f.write
  read := f.read
  toJson a := .object [(name, f.toJson a)]
  ofJson j := do f.ofJson (← only? name j)

/-- A case that holds fields: its name with an object of them. -/
def fields (name : String) (fs : Fields α) : Case α where
  write := fs.write
  read := fs.read
  toJson a := .object [(name, .object (fs.members a))]
  ofJson j := do
    match ← only? name j with
    | .object members => fs.ofMembers (.object members)
    | _ => none

end Case

namespace Form

def single (c : Case α) : Form α where
  write a := Bytes.ofNatLE 4 0 ++ c.write a
  read b := do
    let (n, b) ← readNat 4 b
    if n = 0 then c.read b else none
  toJson := c.toJson
  ofJson := c.ofJson

def either (a : Case α) (b : Case β) : Form (α ⊕ β) where
  write
    | .inl x => Bytes.ofNatLE 4 0 ++ a.write x
    | .inr y => Bytes.ofNatLE 4 1 ++ b.write y
  read bytes := do
    let (n, bytes) ← readNat 4 bytes
    if n = 0 then (a.read bytes).map fun (x, rest) => (.inl x, rest)
    else if n = 1 then (b.read bytes).map fun (y, rest) => (.inr y, rest)
    else none
  toJson
    | .inl x => a.toJson x
    | .inr y => b.toJson y
  ofJson j := (a.ofJson j).map .inl <|> (b.ofJson j).map .inr

/-- A choice between named values in the order of their numbers. -/
def names [BEq α] (all : List α) (name : α → String) : Form α where
  write a := Bytes.ofNatLE 4 (all.idxOf a)
  read bytes := do
    let (n, bytes) ← readNat 4 bytes
    return (← all[n]?, bytes)
  toJson a := .string (name a)
  ofJson j := all.find? fun a => ((Case.empty (name a)).ofJson j).isSome

end Form

def maxMessageBytes : Nat := 4 * 1024 * 1024

def encode? (f : Form α) (a : α) : Option Bytes :=
  let b := f.write a
  if b.length ≤ maxMessageBytes then some b else none

def decode? (f : Form α) (b : Bytes) : Option α :=
  if b.length ≤ maxMessageBytes then
    match f.read b with
    | some (a, []) => some a
    | _ => none
  else none

end HbarKit.Wire
