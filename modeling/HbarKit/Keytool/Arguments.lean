import HbarKit.Keytool.Verb
import HbarKit.Text.Decimal
import HbarKit.Text.Split

/-!
# Reading a command line

The words of a command line are read one after another: names that lead to a verb, options with
their values, and operands. Options are looked up among those of the names read so far, and none
may come twice between two names. A value in a word of its own is looked at only when the next
option or operand comes, and at the end; a name that comes first leaves it for later. What the
environment holds for an option counts only if the option is not there.
-/
namespace HbarKit.Keytool

/-- Why no verb is done: the caller asks how the tool is used, or for its version behind some names,
or uses it in a wrong way. -/
inductive Stop where
  | help
  | version (names : List String)
  | unknown (word : String)
  | repeated (option : String)
  | valueMissing (option : String)
  | valueUnwanted (option : String)
  | invalid (what value : String)
  | missing (what : String)
  | alone (option companion : String)
  deriving DecidableEq

def toolName : String := "ledger-keytool"

def toolVersion : String := "0.1.0"

def Stop.text : Stop → String
  | help => "usage: " ++ toolName ++ " " ++ String.intercalate " | "
      (Verb.all.map fun v => String.intercalate " " v.path)
  | version names => String.intercalate "-" (toolName :: names) ++ " " ++ toolVersion
  | unknown word => "error: unexpected argument " ++ word
  | repeated option => "error: --" ++ option ++ " cannot be used more than once"
  | valueMissing option => "error: --" ++ option ++ " needs a value"
  | valueUnwanted option => "error: --" ++ option ++ " takes no value"
  | invalid what value => "error: invalid value " ++ value ++ " for " ++ what
  | missing what => "error: " ++ what ++ " is missing"
  | alone option companion => "error: --" ++ option ++ " needs --" ++ companion

inductive Pending where
  | option (rule : OptionRule) (value : Option String)
  | operand (kind : ValueKind) (value : String)

structure Passage where
  /-- The options with their values. A switch has an empty one. -/
  given : List (String × String) := []
  pending : Option Pending := none

namespace Passage

def give (p : Passage) (r : OptionRule) (value : String) : Except Stop Passage :=
  if p.given.any fun g => g.1 = r.name then .error (.repeated r.name)
  else if (r.kind.map (ValueKind.admits value)).getD true then
    .ok { given := p.given ++ [(r.name, value)] }
  else .error (.invalid r.name value)

def settle (p : Passage) : Except Stop Passage :=
  match p.pending with
  | none => .ok p
  | some (.option r none) => .error (.valueMissing r.name)
  | some (.option r (some value)) => p.give r value
  | some (.operand kind value) =>
    if kind.admits value then .ok { p with pending := none } else .error (.invalid "operand" value)

end Passage

structure Progress where
  path : List String := []
  /-- The passages before the last name, nearest one first. -/
  earlier : List Passage := []
  passage : Passage := {}
  operands : List String := []
  ended : Bool := false
  /-- The names that help is asked for, if it is. -/
  helpFor : Option (List String) := none

namespace Progress

def rules (p : Progress) : List OptionRule :=
  commonRules ++ ((Verb.ofPath? p.path).map Verb.rules).getD []

/-- Looks at the value that waits for it, and stops. -/
def stop (p : Progress) (reason : Stop) : Except Stop Progress := do
  let _ ← p.passage.settle
  throw reason

def option (p : Progress) (r : OptionRule) (value : Option (List Char)) :
    Except Stop Progress := do
  let passage ← p.passage.settle
  match r.kind, value with
  | none, none => return { p with passage := ← passage.give r "" }
  | none, some _ => throw (.valueUnwanted r.name)
  | some _, none => return { p with passage := { passage with pending := some (.option r none) } }
  | some _, some value => return { p with passage := ← passage.give r (String.ofList value) }

def long (p : Progress) (word : List Char) : Except Stop Progress :=
  let (name, value) := match Text.cut '=' word with
    | some (name, value) => (name, some value)
    | none => (word, none)
  match p.rules.find? fun r => r.name.toList = name with
  | some r => p.option r value
  | none =>
    p.stop (if word = "help".toList then .help
      else if word = "version".toList then .version p.path
      else .unknown ("--" ++ String.ofList word))

/-- A word behind one dash: the letter of an option, with its value behind it or behind an equals
sign. -/
def short (p : Progress) (letter : Char) (rest : List Char) : Except Stop Progress :=
  let value := match rest with
    | [] => none
    | '=' :: value => some value
    | value => some value
  match p.rules.find? fun r => r.letter = some letter with
  | some r => p.option r value
  | none =>
    p.stop (if letter = 'h' then .help
      else if letter = 'V' then .version p.path
      else .unknown ("-" ++ String.ofList (letter :: rest)))

def operand (p : Progress) (word : String) : Except Stop Progress := do
  match Verb.ofPath? p.path with
  | some verb =>
    let passage ← p.passage.settle
    match verb.operandKinds[p.operands.length]? with
    | some kind =>
      return { p with
        operands := p.operands ++ [word]
        passage := { passage with pending := some (.operand kind word) } }
    | none => throw (.unknown word)
  | none =>
    let path := p.path ++ [word]
    if p.ended then throw (.unknown word)
    else if Verb.isGroup path then
      return { p with path, earlier := p.passage :: p.earlier, passage := {} }
    else if word = "help" then return { p with helpFor := some p.path }
    else throw (.unknown word)

/-- One more name that help is asked for, which may also be the call for help. -/
def help (p : Progress) (path : List String) (word : String) : Except Stop Progress :=
  let longer := path ++ [word]
  let callsHelp := word = "help" ∧ Verb.isGroup path ∧ (Verb.ofPath? path).isNone
  if Verb.isGroup longer ∨ callsHelp then .ok { p with helpFor := some longer }
  else .error (.unknown word)

/-- Whether a word is the value of an option that waits for one. A word with a dash in front is
not, unless it is a number below zero where one is allowed, or a dash alone. -/
def admits (r : OptionRule) : (word : List Char) → Bool
  | '-' :: c :: rest => r.allowsNegative && (c :: rest).all Decimal.isDigit
  | _ => true

def step (p : Progress) (word : String) : Except Stop Progress :=
  match p.helpFor, p.passage.pending with
  | some path, _ => p.help path word
  | none, some (.option r none) =>
    if admits r word.toList then
      .ok { p with passage := { p.passage with pending := some (.option r (some word)) } }
    else .error (.valueMissing r.name)
  | none, _ =>
    if p.ended then p.operand word
    else
      match word.toList with
      | ['-', '-'] => .ok { p with ended := true }
      | '-' :: '-' :: rest => p.long rest
      | '-' :: letter :: rest => p.short letter rest
      | _ => p.operand word

def run (p : Progress) (words : List String) : Except Stop Progress := words.foldlM step p

end Progress

structure Arguments where
  verb : Verb
  /-- Options with their values, those of the command line first. -/
  given : List (String × String)
  operands : List String
  json : Bool

namespace Arguments

def ofProgress (environment : String → Option String) (p : Progress) :
    Except Stop Arguments := do
  if p.helpFor.isSome then throw .help
  let passage ← p.passage.settle
  let earlier ← p.earlier.mapM Passage.settle
  match Verb.ofPath? p.path with
  | none => throw (.missing "a command")
  | some verb =>
    let fallbacks := verb.rules.filterMap fun r => do
      return (r.name, ← environment (← r.source))
    return { verb
             given := passage.given ++ fallbacks
             operands := p.operands
             json := (passage :: earlier).any fun q => q.given.any fun g => g.1 = "json" }

def parse (environment : String → Option String) (words : List String) : Except Stop Arguments := do
  ofProgress environment (← Progress.run {} words)

def has (a : Arguments) (name : String) : Bool := (a.given.lookup name).isSome

def text? (a : Arguments) (name : String) : Option String := a.given.lookup name

def value? (a : Arguments) (name : String) (ofText? : String → Option α) :
    Except Stop (Option α) :=
  match a.text? name with
  | none => .ok none
  | some s =>
    match ofText? s with
    | some value => .ok (some value)
    | none => .error (.invalid name s)

def value (a : Arguments) (name : String) (ofText? : String → Option α) : Except Stop α := do
  match ← a.value? name ofText? with
  | some value => return value
  | none => throw (.missing ("--" ++ name))

def operand (a : Arguments) (ofText? : String → Option α) : Except Stop α :=
  match a.operands with
  | [] => .error (.missing "operand")
  | s :: _ =>
    match ofText? s with
    | some value => .ok value
    | none => .error (.invalid "operand" s)

end Arguments

end HbarKit.Keytool
