import HbarKit.Keytool.Machine

/-!
# A folder as a machine

A machine in memory: a folder with a path and files, but no folders in it. A path that does not
begin at the root begins in the folder. Every name on the way has to be a directory, also one in
front of a slash at the end; of what lies outside the folder only that is there which every machine
has: some directories, and a file that stays empty.
-/
namespace HbarKit.Keytool

structure StoredFile where
  contents : Bytes
  isPrivate : Bool
  deriving DecidableEq

/-- A folder with its files. Its name stands for its path from the root. -/
structure Folder where
  name : String
  files : List (String × StoredFile)
  deriving DecidableEq

namespace Folder

def file? (f : Folder) (name : String) : Option StoredFile := f.files.lookup name

/-- The directories that every machine has, by their names from the root. -/
def directories : List (List String) :=
  [[], ["bin"], ["dev"], ["etc"], ["home"], ["lib"], ["media"], ["mnt"], ["opt"], ["proc"],
    ["root"], ["run"], ["sbin"], ["srv"], ["sys"], ["tmp"], ["usr"], ["var"], ["usr", "bin"],
    ["usr", "lib"], ["usr", "local"], ["usr", "sbin"], ["usr", "share"], ["var", "lib"],
    ["var", "log"], ["var", "tmp"]]

/-- The file that every machine has and that stays empty. -/
def emptyFile : List String := ["dev", "null"]

inductive Place where
  | folder
  | file (name : String)
  | empty
  /-- A directory outside the folder, by its names from the root where they are known. -/
  | outside (names : Option (List String))
  deriving DecidableEq

/-- How many bytes a name may have, and how many a path has to stay below. -/
def maxName : Nat := 255

@[inherit_doc maxName]
def maxPath : Nat := 4096

def enter (f : Folder) (place : Place) (name : String) : Except FileFault Place :=
  match place with
  | .file _ | .empty => .error .notDirectory
  | .folder =>
    if name = "." then .ok .folder
    else if name = ".." then .ok (.outside none)
    else if maxName < name.utf8ByteSize then .error .nameTooLong
    else if (f.file? name).isSome then .ok (.file name)
    else .error .missing
  | .outside names =>
    if name = "." then .ok place
    else if name = ".." then .ok (.outside (names.map List.dropLast))
    else if maxName < name.utf8ByteSize then .error .nameTooLong
    else
      match names with
      | none => .error .missing
      | some names =>
        let longer := names ++ [name]
        if longer = [f.name] then .ok .folder
        else if longer = emptyFile then .ok .empty
        else if directories.contains longer then .ok (.outside (some longer))
        else .error .missing

/-- A path in which the name of the folder is one below the root wherever it stands. -/
def rooted (f : Folder) (path : String) : String :=
  String.intercalate ("/" ++ f.name) (path.splitOn f.name)

/-- The names along a path. A slash at the end asks for a directory, as a name for itself does. -/
def names (path : String) : List String :=
  let all := (Text.pieces '/' path.toList).map String.ofList
  all.dropLast.filter (· ≠ "") ++ [if all.getLast? = some "" then "." else all.getLastD "."]

def start (f : Folder) (path : String) : Place × List String :=
  let path := f.rooted path
  (if path.startsWith "/" then .outside (some []) else .folder, names path)

def read (f : Folder) (path : String) : Except FileFault Bytes := do
  if maxPath ≤ path.utf8ByteSize then throw .nameTooLong
  let (place, names) := f.start path
  match ← names.foldlM f.enter place with
  | .file name =>
    match f.file? name with
    | some file => return file.contents
    | none => throw .missing
  | .empty => return []
  | .folder | .outside _ => throw .isDirectory

/-- The name of the file that is written at a path, or none where nothing is kept. -/
def target (f : Folder) (path : String) : Except FileFault (Option String) := do
  if maxPath ≤ path.utf8ByteSize then throw .nameTooLong
  let (place, names) := f.start path
  if path.endsWith "/" then
    let place ← names.dropLast.dropLast.foldlM f.enter place
    let _ ← f.enter place "."
    throw .isDirectory
  else
    let place ← names.dropLast.foldlM f.enter place
    let last := names.getLastD "."
    match f.enter place last with
    | .ok (.file name) => return some name
    | .ok .empty => return none
    | .ok .folder | .ok (.outside _) => throw .isDirectory
    | .error fault =>
      if fault = .missing ∧ place = .folder ∧ last ≠ f.name then return some last
      else throw fault

/-- The folder with a file, in the place of the one that had its name. -/
def put (f : Folder) (name : String) (file : StoredFile) : Folder :=
  { f with files := (name, file) :: f.files.filter fun g => g.1 ≠ name }

@[simp] theorem file?_put (f : Folder) (name : String) (file : StoredFile) :
    (f.put name file).file? name = some file := by
  simp [put, file?]

def write (f : Folder) (path : String) (contents : Bytes) : Except FileFault Unit × Folder :=
  match f.target path with
  | .ok (some name) => (.ok (), f.put name ⟨contents, true⟩)
  | .ok none => (.ok (), f)
  | .error fault => (.error fault, f)

/-- The folder as a machine, with the bytes that it gives for random ones. -/
def machine (chance : (n : Nat) → Octets n) : Machine (StateM Folder) where
  read path := fun f => (f.read path, f)
  write path contents := fun f => f.write path contents
  random n := return chance n

end Folder

end HbarKit.Keytool
