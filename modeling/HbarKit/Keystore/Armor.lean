import HbarKit.Bytes.Base64
import HbarKit.Keystore.Error
import HbarKit.Text.Blank
import HbarKit.Text.Split

/-!
# Armored text

Bytes in base64 between a line that begins a block with a label and a line that ends it. Before the
data there may be headers with an empty line behind them.
-/
namespace HbarKit

structure Armor where
  label : String
  contents : Bytes
  deriving DecidableEq

namespace Armor

/-- The characters before and after a marker, the earliest that a simple search finds: a character
that does not fit sets the search back to the start of the marker and is itself passed over.
`missing` is what of the marker is still missing and `before` what was passed, last one first. -/
def seek (marker : List Char) (missing before : List Char) :
    List Char → Option (List Char × List Char)
  | [] => none
  | c :: cs =>
    match missing with
    | m :: more =>
      if c = m then
        if more.isEmpty then some ((before.drop (marker.length - 1)).reverse, cs)
        else seek marker more (c :: before) cs
      else seek marker marker (c :: before) cs
    | [] => seek marker marker (c :: before) cs

def find? (marker : String) (cs : List Char) : Option (List Char × List Char) :=
  seek marker.toList marker.toList [] cs

structure Frame where
  (label headers data endLabel : List Char)

def frame? (cs : List Char) : Option Frame := do
  let (_, rest) ← find? "-----BEGIN " cs
  let (label, rest) ← find? "-----" rest
  let rest := rest.dropWhile fun c => c = ' ' ∨ c = '\t' ∨ c = '\n' ∨ c = '\r'
  let (body, rest) ← find? "-----END " rest
  let (endLabel, _) ← find? "-----" rest
  match find? "\n\n" body <|> find? "\r\n\r\n" body with
  | some (headers, data) => return ⟨label, headers, data, endLabel⟩
  | none => return ⟨label, [], body, endLabel⟩

/-- A line without the carriage return at its end. -/
def withoutReturn (line : List Char) : List Char :=
  if line.getLast? = some '\r' then line.dropLast else line

/-- The lines of a text. A carriage return in front of a line feed belongs to the end of the line;
what is behind the last line feed is a line if there is anything, and keeps its carriage return. -/
def lines (cs : List Char) : List (List Char) :=
  let all := Text.pieces '\n' cs
  all.dropLast.map withoutReturn ++ all.getLast?.toList.filter fun line => !line.isEmpty

/-- What is wrong with base64 data: the first letter that cannot stand where it stands, or a
length, filling or last letter that nothing is written with. `place` counts the letters before. -/
def complaint (place : Nat) : Bytes → String
  | a :: b :: c :: d :: e :: more =>
    match [a, b, c, d].findIdx? fun x => (Base64.value? (Char.ofNat x.toNat)).isNone with
    | some i =>
      "Invalid symbol " ++ Decimal.ofNat ([a, b, c, d].getD i 0).toNat ++ ", offset " ++
        Decimal.ofNat (place + i) ++ "."
    | none => complaint (place + 4) (e :: more)
  | group =>
    let letters := group.takeWhile fun x => x ≠ 0x3d
    let symbol (i : Nat) := "Invalid symbol " ++ Decimal.ofNat (group.getD i 0).toNat ++
      ", offset " ++ Decimal.ofNat (place + i) ++ "."
    match letters.findIdx? fun x => (Base64.value? (Char.ofNat x.toNat)).isNone with
    | some i => symbol i
    | none =>
      if letters.length < group.length ∧
          (letters.length < 2 ∨ (group.drop letters.length).any (· ≠ 0x3d)) then
        symbol letters.length
      else if letters.length < 2 then
        "Invalid input length: " ++ Decimal.ofNat (place + letters.length)
      else if group.length < 4 then "Invalid padding"
      else
        "Invalid last symbol " ++ Decimal.ofNat (letters.getLastD 0).toNat ++ ", offset " ++
          Decimal.ofNat (place + letters.length - 1) ++ "."

/-- What is wrong with base64 data as a whole: a last letter beyond whole groups comes first. -/
def dataComplaint (data : Bytes) : String :=
  let last := data.getLastD 0
  if data.length % 4 = 1 ∧ last ≠ 0x3d ∧ (Base64.value? (Char.ofNat last.toNat)).isNone then
    "Invalid symbol " ++ Decimal.ofNat last.toNat ++ ", offset " ++
      Decimal.ofNat (data.length - 1) ++ "."
  else complaint 0 data

def parse (text : String) : Except String Armor :=
  match frame? text.toList with
  | none => .error "malformedframing"
  | some f =>
    let data := f.data.filter fun c => !Text.isBlank c
    if f.label.isEmpty then .error "missing BEGIN tag"
    else if f.endLabel.isEmpty then .error "missing END tag"
    else if f.label ≠ f.endLabel then
      .error ("mismatching BEGIN (\"" ++ String.ofList f.label ++ "\") and END (\"" ++
        String.ofList f.endLabel ++ "\") tags")
    else
      match Base64.decode? data with
      | none => .error ("invalid data: " ++ dataComplaint (Bytes.ofString (String.ofList data)))
      | some contents =>
        match (lines f.headers).find? fun line => !line.contains ':' with
        | some line => .error ("invalid header: " ++ String.ofList line)
        | none => .ok ⟨String.ofList f.label, contents⟩

/-- The characters in lines of a length, each with a line end. The number bounds the lines. -/
def wrap (width : Nat) : (count : Nat) → List Char → List Char
  | 0, _ => []
  | count + 1, cs =>
    if cs.isEmpty then [] else cs.take width ++ '\n' :: wrap width count (cs.drop width)

def chars (a : Armor) : List Char :=
  let data := Base64.encode a.contents
  "-----BEGIN ".toList ++ a.label.toList ++ "-----\n".toList ++ wrap 64 data.length data ++
    "-----END ".toList ++ a.label.toList ++ "-----\n".toList

def text (a : Armor) : String := String.ofList a.chars

end Armor

end HbarKit
