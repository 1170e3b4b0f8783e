import HbarKit.Bytes.Hex
import HbarKit.Number.Shortest

/-!
# JSON values

A value keeps the members of an object in the order in which they are written. A numeral is an
integer when it is written without fraction and exponent, lies in the 64-bit ranges and is not
minus zero; any other numeral is a binary number.
-/
namespace HbarKit

inductive Json where
  | null
  | bool (b : Bool)
  | integer (n : Int)
  | decimal (x : Binary64)
  | string (s : String)
  | array (items : List Json)
  | object (members : List (String × Json))
  deriving Repr

namespace Json

/-- The member of an object with a name, the last one if there are several. -/
def member? (name : String) : Json → Option Json
  | object members => (members.reverse.find? fun m => m.1 = name).map Prod.snd
  | _ => none

def int? (min max : Int) : Json → Option Int
  | integer n => if min ≤ n ∧ n ≤ max then some n else none
  | _ => none

def nat? (max : Nat) (j : Json) : Option Nat := (j.int? 0 max).map Int.toNat

def text? : Json → Option String
  | string s => some s
  | _ => none

def bool? : Json → Option Bool
  | bool b => some b
  | _ => none

def items? : Json → Option (List Json)
  | array items => some items
  | _ => none

def optional (f : α → Json) : Option α → Json
  | some a => f a
  | none => null

def nat (n : Nat) : Json := integer n

def byteArray (b : Bytes) : Json := array (b.map fun x => integer x.toNat)

def bytes? (j : Json) : Option Bytes := do
  (← j.items?).mapM fun item => (item.nat? 255).map UInt8.ofNat

/-- One character between the quotes of a string: the quote, the backslash and controls escaped. -/
def escape (c : Char) : List Char :=
  if c = '"' then ['\\', '"']
  else if c = '\\' then ['\\', '\\']
  else if c.toNat = 8 then ['\\', 'b']
  else if c.toNat = 9 then ['\\', 't']
  else if c.toNat = 10 then ['\\', 'n']
  else if c.toNat = 12 then ['\\', 'f']
  else if c.toNat = 13 then ['\\', 'r']
  else if c.toNat < 0x20 then
    ['\\', 'u', '0', '0', Hex.digit (c.toNat / 16), Hex.digit (c.toNat % 16)]
  else [c]

def quote (s : String) : List Char := '"' :: s.toList.flatMap escape ++ ['"']

mutual

/-- The characters of a value without blanks, before the characters `rest`. -/
def write : Json → List Char → List Char
  | null, rest => "null".toList ++ rest
  | bool true, rest => "true".toList ++ rest
  | bool false, rest => "false".toList ++ rest
  | integer n, rest => Decimal.intDigits n ++ rest
  | decimal x, rest => x.chars ++ rest
  | string s, rest => quote s ++ rest
  | array items, rest => '[' :: writeItems true items (']' :: rest)
  | object members, rest => '\x7b' :: writeMembers true members ('\x7d' :: rest)

def writeItems : Bool → List Json → List Char → List Char
  | _, [], rest => rest
  | first, item :: items, rest =>
    (if first then [] else [',']) ++ write item (writeItems false items rest)

def writeMembers : Bool → List (String × Json) → List Char → List Char
  | _, [], rest => rest
  | first, (name, value) :: members, rest =>
    (if first then [] else [',']) ++ quote name ++ ':' ::
      write value (writeMembers false members rest)

end

def compact (j : Json) : String := String.ofList (write j [])

mutual

/-- A value over several lines, `depth` steps of two blanks to the right. -/
def indented (depth : Nat) : Json → List Char
  | array [] => ['[', ']']
  | array items => '[' :: indentedItems (depth + 1) true items ++ newline depth ++ [']']
  | object [] => ['\x7b', '\x7d']
  | object members =>
    '\x7b' :: indentedMembers (depth + 1) true members ++ newline depth ++ ['\x7d']
  | j => write j []

def indentedItems (depth : Nat) : Bool → List Json → List Char
  | _, [] => []
  | first, item :: items =>
    (if first then [] else [',']) ++ newline depth ++ indented depth item ++
      indentedItems depth false items

def indentedMembers (depth : Nat) : Bool → List (String × Json) → List Char
  | _, [] => []
  | first, (name, value) :: members =>
    (if first then [] else [',']) ++ newline depth ++ quote name ++ [':', ' '] ++
      indented depth value ++ indentedMembers depth false members

def newline (depth : Nat) : List Char := '\n' :: List.replicate (2 * depth) ' '

end

def pretty (j : Json) : String := String.ofList (indented 0 j)

end Json

end HbarKit
