import HbarKit.Bytes
import HbarKit.Number.Shortest
import HbarKit.Text.Quoted

/-!
# Faults in JSON texts

What is wrong with a text that is no value, or not the value asked for, and where that is noticed.
Places are counted in bytes, and a place may lie within a character.
-/
namespace HbarKit.Json

inductive Finding where
  | null
  | bool (b : Bool)
  | integer (n : Int)
  | decimal (x : Binary64)
  | string (s : String)
  | array
  | object
  deriving DecidableEq, Repr

def Finding.text : Finding → String
  | null => "null"
  | bool true => "boolean `true`"
  | bool false => "boolean `false`"
  | integer n => "integer `" ++ Decimal.ofInt n ++ "`"
  | decimal x => "floating point `" ++ String.ofList x.chars ++ "`"
  | string s => "string " ++ Text.quoted s
  | array => "sequence"
  | object => "map"

inductive Cause where
  /-- The text ends in the middle of a value, an array, an object or a string. -/
  | endInValue
  | endInArray
  | endInObject
  | endInString
  /-- Something else stands where a value, a comma or bracket, a comma or brace, a colon, a name or
  a word has to be. -/
  | noValue
  | noCommaOrBracket
  | noCommaOrBrace
  | noColon
  | noName
  | noWord
  /-- A comma before the end of an array or object, or anything behind the end. -/
  | trailingComma
  | trailing
  /-- A numeral that is not one, or is too large. -/
  | badNumeral
  | numeralRange
  /-- A bad escape in a string, half of a pair of surrogates, or a control character. -/
  | badEscape
  | halfPair
  | loneSurrogate
  | control
  | kind (found : Finding) (expected : String)
  | range (found : Finding) (expected : String)
  | length (given : Nat) (expected : String)
  | choice (name : String) (expected : String)
  | missing (field : String)
  | duplicate (field : String)
  deriving DecidableEq, Repr

def Cause.text : Cause → String
  | endInValue => "EOF while parsing a value"
  | endInArray => "EOF while parsing a list"
  | endInObject => "EOF while parsing an object"
  | endInString => "EOF while parsing a string"
  | noValue => "expected value"
  | noCommaOrBracket => "expected `,` or `]`"
  | noCommaOrBrace => "expected `,` or `\x7d`"
  | noColon => "expected `:`"
  | noName => "key must be a string"
  | noWord => "expected ident"
  | trailingComma => "trailing comma"
  | trailing => "trailing characters"
  | badNumeral => "invalid number"
  | numeralRange => "number out of range"
  | badEscape => "invalid escape"
  | halfPair => "unexpected end of hex escape"
  | loneSurrogate => "lone leading surrogate in hex escape"
  | control => "control character (\\u0000-\\u001F) found while parsing a string"
  | kind found expected => "invalid type: " ++ found.text ++ ", expected " ++ expected
  | range found expected => "invalid value: " ++ found.text ++ ", expected " ++ expected
  | length given expected =>
    "invalid length " ++ Decimal.ofNat given ++ ", expected " ++ expected
  | choice name expected => "unknown variant `" ++ name ++ "`, expected " ++ expected
  | missing field => "missing field `" ++ field ++ "`"
  | duplicate field => "duplicate field `" ++ field ++ "`"

/-- What is wrong with a text and how many bytes of it were left when that was noticed. -/
structure Fault where
  cause : Cause
  left : Nat
  deriving DecidableEq, Repr

def byteCount : List Char → Nat
  | [] => 0
  | c :: rest => c.utf8Size + byteCount rest

def faultAt (cause : Cause) (rest : List Char) : Except Fault α := .error ⟨cause, byteCount rest⟩

/-- A fault behind the next bytes, as far as there are any. -/
def faultPast (cause : Cause) (rest : List Char) (bytes : Nat := 1) : Except Fault α :=
  .error ⟨cause, byteCount rest - bytes⟩

/-- The line and the column of the place in a text where some bytes are left. -/
def position (text : List Char) (left : Nat) : Nat × Nat :=
  let before := (Bytes.ofString (String.ofList text)).take (byteCount text - left)
  (1 + before.count 10, (before.reverse.takeWhile (· ≠ 10)).length)

def Fault.message (text : List Char) (f : Fault) : String :=
  let (line, column) := position text f.left
  f.cause.text ++ " at line " ++ Decimal.ofNat line ++ " column " ++ Decimal.ofNat column

end HbarKit.Json
