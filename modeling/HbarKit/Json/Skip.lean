import HbarKit.Json.Reader

/-!
# Passing over JSON

A value that nobody asks for is passed over, whatever it is. Its words, strings and numerals have
to be well formed, but half pairs of surrogates and numbers of any size will do, and brackets may
be opened within each other as often as one likes: what is open is kept in a list.
-/
namespace HbarKit.Json

inductive Frame where
  | array
  | object
  deriving DecidableEq

namespace Frame

def close : Frame → Char
  | array => ']'
  | object => '\x7d'

def atEnd : Frame → Cause
  | array => .endInArray
  | object => .endInObject

def noComma : Frame → Cause
  | array => .noCommaOrBracket
  | object => .noCommaOrBrace

end Frame

/-- How far the passing over of a string has come: outside an escape, behind a backslash, or within
the digits of a code unit, some of which were read. -/
inductive PassMode where
  | plain
  | backslash
  | unit (read : Nat)

def passString (mode : PassMode) : List Char → Except Fault (List Char)
  | [] => faultAt .endInString []
  | c :: rest =>
    match mode with
    | .plain =>
      if c = '"' then .ok rest
      else if c = '\\' then passString .backslash rest
      else if c.toNat < 0x20 then faultAt .control (c :: rest)
      else passString .plain rest
    | .backslash =>
      if c = 'u' then passString (.unit 0) rest
      else if (escaped? c).isSome then passString .plain rest
      else faultPast .badEscape (c :: rest)
    | .unit read =>
      if (Hex.digitValue? c).isNone then noHexDigit read (c :: rest)
      else if read < 3 then passString (.unit (read + 1)) rest
      else passString .plain rest

def passStart (cs : List Char) : Except Fault (Option Frame × List Char) :=
  match skipBlank cs with
  | [] => faultAt .endInValue []
  | 'n' :: rest => word "ull".toList none rest
  | 't' :: rest => word "rue".toList none rest
  | 'f' :: rest => word "alse".toList none rest
  | '[' :: rest => .ok (some .array, rest)
  | '\x7b' :: rest => .ok (some .object, rest)
  | '"' :: rest => do return (none, ← passString .plain rest)
  | '-' :: rest => do return (none, ← passNumeral rest)
  | c :: rest =>
    if Decimal.isDigit c then do return (none, ← passNumeral (c :: rest))
    else faultPast .noValue (c :: rest)

def passName (frame : Frame) (cs : List Char) : Except Fault (List Char) :=
  match frame with
  | .array => .ok cs
  | .object =>
    match skipBlank cs with
    | '"' :: rest => do colon (← passString .plain rest)
    | [] => faultAt .endInObject []
    | rest => faultPast .noName rest

/-- Passes over what comes behind a value, or behind a bracket when `first` is true: the frames that
are still open in front of the next value, innermost first. There are none if no value is due. -/
def passBehind (first : Bool) : (frames : List Frame) → List Char →
    Except Fault (List Frame × List Char)
  | [], cs => .ok ([], cs)
  | frame :: outer, cs =>
    match skipBlank cs with
    | [] => faultAt frame.atEnd []
    | c :: rest =>
      if c = frame.close then passBehind false outer rest
      else if first then do return (frame :: outer, ← passName frame (c :: rest))
      else if c = ',' then do return (frame :: outer, ← passName frame rest)
      else faultPast frame.noComma (c :: rest)

/-- Passes over a value and what is open around it. The number bounds how many values there are. -/
def passOpen : Nat → (frames : List Frame) → List Char → Except Fault (List Char)
  | 0, _, cs => .ok cs
  | fuel + 1, frames, cs => do
    let (opened, rest) ← passStart cs
    let (frames, rest) ← match opened with
      | none => passBehind false frames rest
      | some frame => passBehind true (frame :: frames) rest
    if frames.isEmpty then return rest else passOpen fuel frames rest

def skipValue (cs : List Char) : Except Fault (List Char) := passOpen (cs.length + 1) [] cs

end HbarKit.Json
