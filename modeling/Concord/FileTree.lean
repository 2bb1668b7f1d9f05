import Concord.Path

/-!
# File trees

Files and directories as a value. A `Disk` is a tree with a working directory,
from which relative paths are followed. Paths are followed step by step, so that
`..` leads out of a directory that exists, and a file is no directory even
before a trailing slash.
-/

namespace Concord

/-- A file, a directory with its entries, or something else that has a name. -/
inductive FileTree where
  | file (content : ByteArray)
  | directory (entries : List (String × FileTree))
  | device
  deriving Inhabited

namespace FileTree

def isDirectory : FileTree → Bool
  | .directory _ => true
  | _ => false

def isFile : FileTree → Bool
  | .file _ => true
  | _ => false

/-- What stands under a list of names. -/
def get? : FileTree → List String → Option FileTree
  | t, [] => some t
  | .directory entries, name :: names =>
    match entries.lookup name with
    | some t => t.get? names
    | none => none
  | _, _ :: _ => none

/-- Replaces the entry of a name, or adds it at the end. -/
def put (name : String) (t : FileTree) :
    List (String × FileTree) → List (String × FileTree)
  | [] => [(name, t)]
  | (n, u) :: rest =>
    if n = name then (name, t) :: rest else (n, u) :: put name t rest

/-- Puts a tree under a list of names; the directories on the way have to be
there. -/
def set (t : FileTree) : FileTree → List String → FileTree
  | _, [] => t
  | .directory entries, name :: names =>
    .directory (put name
      (set t ((entries.lookup name).getD (.directory [])) names) entries)
  | u, _ :: _ => u

/-! ## Walking through a tree -/

/-- A place on a walk: how deep it lies below the start, its path, and what
stands there. -/
structure Visit where
  depth : Nat
  path : String
  tree : FileTree

/-- The last name of the path, or the whole path if that is no name. -/
def Visit.name (v : Visit) : String :=
  (Path.fileName? v.path).getD v.path

mutual

/-- A tree and what lies below it, each directory before its entries. Where
`admits` refuses a place, it is left out with everything below it. -/
def walk (admits : Visit → Bool) (depth : Nat) (path : String) (t : FileTree) :
    List Visit :=
  let here : Visit := ⟨depth, path, t⟩
  if admits here then
    here :: match t with
      | .directory entries => walkEntries admits (depth + 1) path entries
      | _ => []
  else []

/-- The walks from the entries of the directory at `path`, one after another. -/
def walkEntries (admits : Visit → Bool) (depth : Nat) (path : String) :
    List (String × FileTree) → List Visit
  | [] => []
  | (name, t) :: rest =>
    walk admits depth (Path.join path name) t
      ++ walkEntries admits depth path rest

end

end FileTree

/-- Why a path cannot be used. -/
inductive FileFault where
  | notFound
  | alreadyExists
  | notDirectory
  | isDirectory
  | notText
  deriving DecidableEq

def FileFault.text : FileFault → String
  | .notFound => "No such file or directory"
  | .alreadyExists => "File exists"
  | .notDirectory => "Not a directory"
  | .isDirectory => "Is a directory"
  | .notText => "stream did not contain valid UTF-8"

/-- The number of a fault, where the host gives it one. -/
def FileFault.number? : FileFault → Option Nat
  | .notFound => some 2
  | .alreadyExists => some 17
  | .notDirectory => some 20
  | .isDirectory => some 21
  | .notText => none

def FileFault.message (f : FileFault) : String :=
  match f.number? with
  | some n => f.text ++ " (os error " ++ toString n ++ ")"
  | none => f.text

/-- A file tree and the names that lead to the working directory. -/
structure Disk where
  root : FileTree
  workingDirectory : List String := []
  deriving Inhabited

namespace Disk

/-- An empty working directory on a disk that holds nothing else but the null
device. -/
def fresh : Disk where
  root :=
    .directory [("dev", .directory [("null", .device)]),
      ("work", .directory [])]
  workingDirectory := ["work"]

/-! ## Following paths -/

/-- One step of a path from the place that `names` lead to. -/
def step (d : Disk) (names : List String) (part : String) :
    Except FileFault (List String) :=
  match d.root.get? names with
  | some (.directory entries) =>
    if part = "" || part = "." then .ok names
    else if part = ".." then .ok names.dropLast
    else if (entries.lookup part).isSome then .ok (names ++ [part])
    else .error .notFound
  | some _ => .error .notDirectory
  | none => .error .notFound

/-- The names to which a path leads. -/
def locate (d : Disk) (path : String) : Except FileFault (List String) :=
  if path.isEmpty then .error .notFound
  else
    (Path.parts path).foldlM d.step
      (if Path.isAbsolute path then [] else d.workingDirectory)

/-- What stands at a path. -/
def find? (d : Disk) (path : String) : Option FileTree :=
  match d.locate path with
  | .ok names => d.root.get? names
  | .error _ => none

/-- Something stands at the path. -/
def exists? (d : Disk) (path : String) : Bool :=
  (d.find? path).isSome

def isFile (d : Disk) (path : String) : Bool :=
  (d.find? path).any FileTree.isFile

def isDirectory (d : Disk) (path : String) : Bool :=
  (d.find? path).any FileTree.isDirectory

/-! ## Reading -/

/-- The bytes of the file at a path. A device is empty. -/
def readBytes (d : Disk) (path : String) : Except FileFault ByteArray := do
  match d.root.get? (← d.locate path) with
  | some (.file content) => .ok content
  | some (.directory _) => .error .isDirectory
  | some .device => .ok ByteArray.empty
  | none => .error .notFound

def readText (d : Disk) (path : String) : Except FileFault String := do
  match String.fromUTF8? (← d.readBytes path) with
  | some text => .ok text
  | none => .error .notText

/-! ## Writing -/

/-- The place of a new entry: the names of its directory and its own name. -/
def target (d : Disk) (path : String) :
    Except FileFault (List String × String) := do
  if path.isEmpty then .error .notFound
  else
    let ps := Path.parts path
    let start := if Path.isAbsolute path then [] else d.workingDirectory
    let names ← ps.dropLast.foldlM d.step start
    .ok (names, ps.getLastD "")

def place (d : Disk) (names : List String) (t : FileTree) : Disk :=
  { d with root := FileTree.set t d.root names }

/-- The path without slashes at its end. -/
def dropSlashes (path : String) : String :=
  let kept := path.toList.reverse.dropWhile (· == '/')
  if kept.isEmpty && Path.isAbsolute path then "/"
  else String.ofList kept.reverse

def isEntryName (name : String) : Bool :=
  name != "" && name != "." && name != ".."

/-- Writes a file, in place of one that is there. A slash at the end asks for a
directory. -/
def write (d : Disk) (path : String) (content : ByteArray) :
    Except FileFault Disk := do
  let (names, name) ← d.target (dropSlashes path)
  match d.root.get? names with
  | some (.directory entries) =>
    if !isEntryName name || path.toList.getLast? == some '/' then
      .error .isDirectory
    else
      match entries.lookup name with
      | some (.directory _) => .error .isDirectory
      | some .device => .ok d
      | _ => .ok (d.place (names ++ [name]) (.file content))
  | some _ => .error .notDirectory
  | none => .error .notFound

def withoutEntry (name : String) : Option FileTree → FileTree
  | some (.directory entries) => .directory (entries.filter (·.1 != name))
  | some t => t
  | none => .directory []

/-- Removes what stands at a path. -/
def remove (d : Disk) (path : String) : Except FileFault Disk := do
  let names ← d.locate path
  match names.getLast? with
  | none => .error .isDirectory
  | some name =>
    let parent := names.dropLast
    .ok (d.place parent (withoutEntry name (d.root.get? parent)))

def makeDirectory (d : Disk) (path : String) : Except FileFault Disk := do
  let (names, name) ← d.target (dropSlashes path)
  match d.root.get? names with
  | some (.directory entries) =>
    if !isEntryName name || (entries.lookup name).isSome then
      .error .alreadyExists
    else .ok (d.place (names ++ [name]) (.directory []))
  | some _ => .error .notDirectory
  | none => .error .notFound

/-- Makes a directory, and those above it that are missing, the outermost one
first. -/
def makeDirectories :
    (fuel : Nat) → Disk → (path : String) → Except FileFault Disk
  | 0, _, _ => .error .notFound
  | fuel + 1, d, path =>
    if path.isEmpty then .ok d
    else
      match d.makeDirectory path with
      | .ok d => .ok d
      | .error .notFound =>
        match Path.parent? path with
        | none => .error .notFound
        | some parent => do
          let d ← makeDirectories fuel d parent
          match d.makeDirectory path with
          | .ok d => .ok d
          | .error fault => if d.isDirectory path then .ok d else .error fault
      | .error fault => if d.isDirectory path then .ok d else .error fault

/-- Makes a directory and those above it. -/
def makePath (d : Disk) (path : String) : Except FileFault Disk :=
  makeDirectories (path.length + 1) d path

/-- Why a report could not be written: the path that failed, and the fault. -/
structure WriteFault where
  path : String
  fault : FileFault
  deriving DecidableEq

def WriteFault.message (f : WriteFault) : String :=
  "failed to write file '" ++ f.path ++ "': " ++ f.fault.message

/-- Writes a file after making the directories it stands in. -/
def writeWithParents (d : Disk) (path : String) (content : ByteArray) :
    Except WriteFault Disk :=
  match (Path.parent? path).filter (!·.isEmpty) with
  | none => (d.write path content).mapError (⟨path, ·⟩)
  | some parent => do
    let d ← (d.makePath parent).mapError (⟨parent, ·⟩)
    (d.write path content).mapError (⟨path, ·⟩)

end Disk
end Concord
