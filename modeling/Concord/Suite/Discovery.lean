import Concord.Suite.File

/-!
# Finding suite files

Suite files are looked for at given paths. A file is taken as it is; below a
directory every file with a known extension is taken, unless its name or a
directory on the way to it starts with a dot. The result is in order of path
components and has no path twice.
-/

namespace Concord
namespace Suite

def extensions : List String :=
  ["yaml", "yml", "json"]

/-- The path has the extension of a suite file. -/
def hasExtension (path : String) : Bool :=
  (Path.extension? path).any extensions.contains

/-- A search starts anywhere, but it does not enter what has a name that starts
with a dot. -/
def isSearched (v : FileTree.Visit) : Bool :=
  v.depth == 0 || v.name.toList.head? != some '.'

/-- The suite files below a tree that stands at `path`. -/
def filesBelow (path : String) (t : FileTree) : List String :=
  let found := (t.walk isSearched 0 path).filter fun v =>
    v.tree.isFile && hasExtension v.path
  found.map FileTree.Visit.path

/-- The files that one path gives. -/
def filesAt (d : Disk) (path : String) : Except SetupError (List String) :=
  if d.isFile path then .ok [path]
  else
    match d.find? path with
    | none => .error (.unreadable path "no such file or directory")
    | some t => .ok (filesBelow path t)

/-- Keeps the first of neighbours with the same components. -/
def dropRepeats : List String → List String
  | [] => []
  | [p] => [p]
  | p :: q :: rest =>
    if Path.same p q then dropRepeats (p :: rest)
    else p :: dropRepeats (q :: rest)

/-- The suite files at the given paths. -/
def discover (d : Disk) (paths : List String) :
    Except SetupError (List String) := do
  let found ← paths.mapM (filesAt d)
  .ok (dropRepeats (found.flatten.mergeSort Path.le))

/-- All suites at the given paths. There has to be one. -/
def loadAll (d : Disk) (m : TypeMatrix) (paths : List String) :
    Except SetupError (List Suite) := do
  let files ← discover d paths
  let suites ← files.mapM (loadFile d m)
  if suites.flatten.isEmpty then .error (.noSuites paths)
  else .ok suites.flatten

end Suite
end Concord
