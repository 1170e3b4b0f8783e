import HbarKit.Json.Numeral

/-!
# Reading JSON

A reader takes the characters that are left and gives what it read and the characters after it, or
a fault. Some faults are noticed at a character and some behind it.
-/
namespace HbarKit.Json

abbrev Reader (α : Type) := List Char → Except Fault (α × List Char)

def skipBlank (cs : List Char) : List Char :=
  cs.dropWhile fun c => c = ' ' || c = '\n' || c = '\t' || c = '\r'

/-- How far the reading of a string has come: outside an escape, behind a backslash, within the
digits of a code unit, or behind a leading surrogate, whose pair has to follow. -/
inductive StringMode where
  | plain
  | backslash
  | unit (lead : Option Nat) (digits : List Char)
  | pairBackslash (lead : Nat)
  | pairLetter (lead : Nat)

def escaped? : Char → Option Char
  | '"' => some '"'
  | '\\' => some '\\'
  | '/' => some '/'
  | 'b' => some (Char.ofNat 8)
  | 'f' => some (Char.ofNat 12)
  | 'n' => some '\n'
  | 'r' => some '\r'
  | 't' => some '\t'
  | _ => none

/-- The value of hexadecimal digits given last one first. -/
def unitValue (digits : List Char) : Nat :=
  digits.foldr (fun c acc => acc * 16 + (Hex.digitValue? c).getD 0) 0

/-- A character in the place of a hexadecimal digit, some of which were read. They stand in four
bytes, which are read together. -/
def noHexDigit (read : Nat) (rest : List Char) : Except Fault α :=
  if read + byteCount rest < 4 then faultAt .endInString []
  else faultPast .badEscape rest (4 - read)

/-- The rest of a string behind its opening quote, the characters read so far last one first. -/
def stringFrom (mode : StringMode) (acc : List Char) : Reader String
  | [] => faultAt .endInString []
  | c :: rest =>
    match mode with
    | .plain =>
      if c = '"' then .ok (String.ofList acc.reverse, rest)
      else if c = '\\' then stringFrom .backslash acc rest
      else if c.toNat < 0x20 then faultAt .control rest
      else stringFrom .plain (c :: acc) rest
    | .backslash =>
      if c = 'u' then stringFrom (.unit none []) acc rest
      else
        match escaped? c with
        | some e => stringFrom .plain (e :: acc) rest
        | none => faultPast .badEscape (c :: rest)
    | .unit lead digits =>
      if (Hex.digitValue? c).isNone then noHexDigit digits.length (c :: rest)
      else if digits.length < 3 then stringFrom (.unit lead (c :: digits)) acc rest
      else
        let n := unitValue (c :: digits)
        let isLead := 0xD800 ≤ n ∧ n ≤ 0xDBFF
        let isTrail := 0xDC00 ≤ n ∧ n ≤ 0xDFFF
        match lead with
        | none =>
          if isTrail then faultAt .loneSurrogate rest
          else if isLead then stringFrom (.pairBackslash n) acc rest
          else stringFrom .plain (Char.ofNat n :: acc) rest
        | some lead =>
          if isTrail then
            stringFrom .plain
              (Char.ofNat ((lead - 0xD800) * 1024 + (n - 0xDC00) + 0x10000) :: acc) rest
          else faultAt .loneSurrogate rest
    | .pairBackslash lead =>
      if c = '\\' then stringFrom (.pairLetter lead) acc rest
      else faultPast .halfPair (c :: rest)
    | .pairLetter lead =>
      if c = 'u' then stringFrom (.unit (some lead) []) acc rest
      else faultPast .halfPair (c :: rest)

def word (letters : List Char) (value : α) : Reader α := fun cs =>
  match letters, cs with
  | [], rest => .ok (value, rest)
  | _ :: _, [] => faultAt .endInValue []
  | l :: letters, c :: rest =>
    if c = l then word letters value rest else faultPast .noWord (c :: rest)

def colon (cs : List Char) : Except Fault (List Char) :=
  match skipBlank cs with
  | ':' :: rest => .ok rest
  | [] => faultAt .endInObject []
  | rest => faultPast .noColon rest

def scalar? : List Char → Option (Except Fault (Json × List Char))
  | 'n' :: rest => some (word "ull".toList Json.null rest)
  | 't' :: rest => some (word "rue".toList (Json.bool true) rest)
  | 'f' :: rest => some (word "alse".toList (Json.bool false) rest)
  | '-' :: rest => some (numeral true rest)
  | '"' :: rest => some do
    let (s, rest) ← stringFrom .plain [] rest
    return (string s, rest)
  | c :: rest => if Decimal.isDigit c then some (numeral false (c :: rest)) else none
  | [] => none

mutual

/-- A value. The number bounds how many readers may be under way within each other. -/
def value : Nat → Reader Json
  | 0, cs => faultPast .noValue cs
  | fuel + 1, cs =>
    match skipBlank cs with
    | [] => faultAt .endInValue []
    | '[' :: rest => do
      let (items, rest) ← items true fuel rest
      return (Json.array items, rest)
    | '\x7b' :: rest => do
      let (members, rest) ← members true fuel rest
      return (Json.object members, rest)
    | cs => (scalar? cs).getD (faultPast .noValue cs)

/-- The items of an array behind its bracket, or behind an item when `first` is false. -/
def items (first : Bool) : Nat → Reader (List Json)
  | 0, cs => faultPast .noValue cs
  | fuel + 1, cs =>
    match skipBlank cs with
    | [] => faultAt .endInArray []
    | ']' :: rest => .ok ([], rest)
    | c :: rest =>
      if first then do
        let (item, rest) ← value fuel (c :: rest)
        let (more, rest) ← items false fuel rest
        return (item :: more, rest)
      else if c = ',' then do
        match skipBlank rest with
        | ']' :: _ => faultPast .trailingComma (skipBlank rest)
        | rest =>
          let (item, rest) ← value fuel rest
          let (more, rest) ← items false fuel rest
          return (item :: more, rest)
      else faultPast .noCommaOrBracket (c :: rest)

def members (first : Bool) : Nat → Reader (List (String × Json))
  | 0, cs => faultPast .noValue cs
  | fuel + 1, cs =>
    match skipBlank cs with
    | [] => faultAt .endInObject []
    | '\x7d' :: rest => .ok ([], rest)
    | c :: rest =>
      let start : Except Fault (List Char) :=
        if first then .ok (c :: rest)
        else if c = ',' then .ok (skipBlank rest)
        else faultPast .noCommaOrBrace (c :: rest)
      match start with
      | .error f => .error f
      | .ok ('"' :: rest) => do
        let (name, rest) ← stringFrom .plain [] rest
        let (v, rest) ← value fuel (← colon rest)
        let (more, rest) ← members false fuel rest
        return ((name, v) :: more, rest)
      | .ok [] => faultAt .endInValue []
      | .ok ('\x7d' :: rest) => faultPast .trailingComma ('\x7d' :: rest)
      | .ok rest => faultPast .noName rest

end

def finish (cs : List Char) : Except Fault Unit :=
  match skipBlank cs with
  | [] => .ok ()
  | rest => faultPast .trailing rest

def ofChars (cs : List Char) : Except Fault Json := do
  let (j, rest) ← value (cs.length + 1) cs
  finish rest
  return j

def parse (s : String) : Except Fault Json := ofChars s.toList

end HbarKit.Json
