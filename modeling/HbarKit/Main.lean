import HbarKit.Keytool.Machine

/-!
# The key tool

The machine that the program runs on, and the program.
-/
namespace HbarKit

open Keytool

/-- The fault of a number, which the system may give with either sign. -/
def faultOfNumber (number : UInt32) (reason : String) : FileFault :=
  match (if number < 0x80000000 then number else -number).toNat with
  | 2 => .missing
  | 20 => .notDirectory
  | 21 => .isDirectory
  | n => .system n reason

def faultOfError : IO.Error → FileFault
  | .noFileOrDirectory .. => .missing
  | .permissionDenied _ number reason | .inappropriateType _ number reason
  | .resourceExhausted _ number reason | .alreadyExists _ number reason =>
    faultOfNumber number reason
  | .invalidArgument _ number reason => faultOfNumber number reason
  | e => .system 5 (toString e)

def guarded (act : IO α) : IO (Except FileFault α) := do
  match ← act.toBaseIO with
  | .ok a => return .ok a
  | .error e => return .error (faultOfError e)

def localMachine : Machine IO where
  read path := guarded do return (← IO.FS.readBinFile path).data.toList
  write path contents := guarded do
    IO.FS.writeBinFile path ⟨contents.toArray⟩
    IO.setAccessRights path { user := { read := true, write := true } }
  random n := do
    match Octets.ofBytes? n (← IO.getRandomBytes n.toUSize).data.toList with
    | some b => return b
    | none => throw (IO.userError "no random bytes")

def readEnvironment : IO (List (String × String)) :=
  Verb.sources.filterMapM fun name => do return (← IO.getEnv name).map fun value => (name, value)

end HbarKit

def main (words : List String) : IO UInt32 := do
  let environment ← HbarKit.readEnvironment
  let outcome ← HbarKit.localMachine.call (fun name => environment.lookup name) words
  (← IO.getStdout).putStr outcome.output
  (← IO.getStderr).putStr outcome.errors
  return outcome.code
