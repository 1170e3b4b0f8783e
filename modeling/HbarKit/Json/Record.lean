import HbarKit.Json.Skip

/-!
# Reading records from JSON

A record is read from an object whose members may come in any order and of which unknown ones are
passed over, or from an array of the fields in their order. A fault tells what was found in the
place of what, and where.
-/
namespace HbarKit.Json

def found (cs : List Char) : Except Fault (Finding × List Char) :=
  let start := skipBlank cs
  match start with
  | [] => faultAt .endInValue []
  | '[' :: _ => .ok (.array, start)
  | '\x7b' :: _ => .ok (.object, start)
  | _ =>
    match scalar? start with
    | none => faultPast .noValue start
    | some read => do
      let (v, rest) ← read
      return (match v with
        | null => .null
        | bool b => .bool b
        | integer n => .integer n
        | decimal x => .decimal x
        | string s => .string s
        | array _ => .array
        | object _ => .object, rest)

def wrongKind (expected : String) (cs : List Char) : Except Fault α := do
  let (what, rest) ← found cs
  faultAt (.kind what expected) rest

def readString (expected : String) : Reader String := fun cs =>
  match skipBlank cs with
  | '"' :: rest => stringFrom .plain [] rest
  | rest => wrongKind expected rest

/-- A numeral without sign, fraction and exponent, up to a bound; `kind` names the range. -/
def readNat (kind : String) (max : Nat) : Reader Nat := fun cs => do
  let (what, rest) ← found cs
  match what with
  | .integer n =>
    if 0 ≤ n ∧ n ≤ max then return (n.toNat, rest) else faultAt (.range what kind) rest
  | _ => faultAt (.kind what kind) rest

def readNull : Reader Unit := fun cs =>
  match skipBlank cs with
  | 'n' :: rest => word "ull".toList () rest
  | rest => wrongKind "unit" rest

def readWrappedName : Reader String := fun cs =>
  match skipBlank cs with
  | '"' :: rest => stringFrom .plain [] rest
  | [] => faultAt .endInValue []
  | '\x7d' :: rest => faultPast .noValue ('\x7d' :: rest)
  | rest => faultPast .noName rest

/-- One of some names, alone or as the only member of an object with the value `null`. -/
def readChoice (choices : List (String × α)) : Reader α := fun cs =>
  let names := match choices.map fun c => "`" ++ c.1 ++ "`" with
    | [a, b] => a ++ " or " ++ b
    | all => "one of " ++ String.intercalate ", " all
  let choose (s : String) (rest : List Char) : Except Fault (α × List Char) :=
    match choices.find? fun c => c.1 = s with
    | some (_, a) => .ok (a, rest)
    | none => faultAt (.choice s names) rest
  match skipBlank cs with
  | '"' :: rest => do
    let (s, rest) ← stringFrom .plain [] rest
    choose s rest
  | '\x7b' :: rest => do
    let (s, rest) ← readWrappedName rest
    let (a, rest) ← choose s rest
    let (_, rest) ← readNull (← colon rest)
    match skipBlank rest with
    | '\x7d' :: rest => return (a, rest)
    | [] => faultAt .endInObject []
    | rest => faultAt .noValue rest
  | [] => faultAt .endInValue []
  | rest => faultPast .noValue rest

def readOptional (r : Reader α) : Reader (Option α) := fun cs =>
  match skipBlank cs with
  | 'n' :: rest => do return (none, (← word "ull".toList () rest).2)
  | rest => do
    let (a, rest) ← r rest
    return (some a, rest)

/-- A field of a record: its name, whether it may be left out, and how a value for it is read into
the record. -/
structure Member (σ : Type) where
  name : String
  optional : Bool
  read : σ → Reader σ

def Member.of (name : String) (read : Reader α) (put : α → σ → σ) : Member σ where
  name
  optional := false
  read s cs := do
    let (a, rest) ← read cs
    return (put a s, rest)

/-- The next name of an object, or nothing at its end, which is not taken away. -/
def nextName (first : Bool) (cs : List Char) : Except Fault (Option String × List Char) :=
  let name (cs : List Char) : Except Fault (Option String × List Char) :=
    match skipBlank cs with
    | '"' :: rest => do
      let (s, rest) ← stringFrom .plain [] rest
      return (some s, rest)
    | '\x7d' :: rest => faultPast .trailingComma ('\x7d' :: rest)
    | [] => faultAt .endInValue []
    | rest => faultPast .noName rest
  match skipBlank cs with
  | [] => faultAt .endInObject []
  | '\x7d' :: rest => .ok (none, '\x7d' :: rest)
  | c :: rest =>
    if first then name (c :: rest)
    else if c = ',' then name rest
    else faultPast .noCommaOrBrace (c :: rest)

/-- Where a fault in the names of an object is noticed: behind blanks and the brace at its end. -/
def behindBrace (cs : List Char) : List Char :=
  match skipBlank cs with
  | '\x7d' :: rest => rest
  | rest => rest

/-- The members of a record behind its brace. `seen` are the names of fields that were read, and
the number bounds how many members there can be. -/
def readMembers (fields : List (Member σ)) (first : Bool) (seen : List String) (s : σ) :
    Nat → Reader σ
  | 0, cs => .ok (s, cs)
  | fuel + 1, cs => do
    match ← nextName first cs with
    | (none, rest) =>
      match fields.find? fun f => !f.optional && !seen.contains f.name with
      | some f => faultAt (.missing f.name) (behindBrace rest)
      | none => return (s, behindBrace rest)
    | (some name, rest) =>
      match fields.find? fun f => f.name = name with
      | some f =>
        if seen.contains name then faultAt (.duplicate name) (behindBrace rest)
        else
          let (s, rest) ← f.read s (← colon rest)
          readMembers fields false (name :: seen) s fuel rest
      | none => readMembers fields false seen s fuel (← skipValue (← colon rest))

def readItems (kind : String) (count : Nat) (first : Bool) (s : σ) : List (Member σ) → Reader σ
  | [], cs =>
    match skipBlank cs with
    | ']' :: rest => .ok (s, rest)
    | [] => faultAt .endInArray []
    | ',' :: rest =>
      match skipBlank rest with
      | ']' :: rest => faultPast .trailingComma (']' :: rest)
      | rest => faultPast .trailing rest
    | rest => faultPast .trailing rest
  | f :: fields, cs =>
    match skipBlank cs with
    | [] => faultAt .endInArray []
    | ']' :: rest =>
      if f.optional then readItems kind count first s fields (']' :: rest)
      else
        faultAt (.length (count - fields.length - 1) (kind ++ " with " ++ Decimal.ofNat count ++
          if count = 1 then " element" else " elements")) rest
    | c :: rest =>
      if first then do
        let (s, rest) ← f.read s (c :: rest)
        readItems kind count false s fields rest
      else if c = ',' then
        match skipBlank rest with
        | ']' :: rest => faultPast .trailingComma (']' :: rest)
        | [] => faultAt .endInValue []
        | rest => do
          let (s, rest) ← f.read s rest
          readItems kind count false s fields rest
      else faultPast .noCommaOrBracket (c :: rest)

/-- A record of a kind with some fields, of which those that may be left out are as in `blank`. -/
def readRecord (kind : String) (fields : List (Member σ)) (blank : σ) : Reader σ := fun cs =>
  match skipBlank cs with
  | '\x7b' :: rest => readMembers fields true [] blank (rest.length + 1) rest
  | '[' :: rest => readItems kind fields.length true blank fields rest
  | rest => wrongKind kind rest

def readWhole (r : Reader α) (text : String) : Except Fault α := do
  let (a, rest) ← r text.toList
  finish rest
  return a

end HbarKit.Json
