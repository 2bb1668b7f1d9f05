import Concord.Text.Lines

/-!
# Paths

A path is kept as it was written. Two paths are equal, and come in order, by
their components: repeated and trailing slashes count nothing, and neither does
a dot, except at the start of a relative path.
-/

namespace Concord
namespace Path

/-- A component of a path. -/
inductive Component where
  | root
  | here
  | up
  | name (text : String)
  deriving DecidableEq, Inhabited

/-- The texts between slashes. -/
def parts (path : String) : List String :=
  (go [] path.toList).map String.ofList
where
  /-- Collects parts; the part being read is kept reversed. -/
  go (part : List Char) : List Char → List (List Char)
    | [] => [part.reverse]
    | c :: rest =>
      if c = '/' then part.reverse :: go [] rest else go (c :: part) rest

/-- The path starts at the root. -/
def isAbsolute (path : String) : Bool :=
  path.toList.head? == some '/'

/-- The component that a part of a path stands for, where it counts. -/
def component? (part : String) : Option Component :=
  if part = "" || part = "." then none
  else if part = ".." then some .up
  else some (.name part)

def components (path : String) : List Component :=
  let ps := parts path
  let start : List Component :=
    if isAbsolute path then [.root]
    else if ps.head? = some "." then [.here] else []
  start ++ ps.filterMap component?

namespace Component

/-- The place of a component among those of other kinds. -/
def rank : Component → Nat
  | .root => 0
  | .here => 1
  | .up => 2
  | .name _ => 3

/-- The order of components: by kind, and names by their code points. -/
def compare (a b : Component) : Ordering :=
  match a, b with
  | .name s, .name t => compareOfLessAndEq s t
  | a, b => compareOfLessAndEq a.rank b.rank

end Component

/-- The order of lists of components, in which a list comes before its
extensions. -/
def compareComponents : List Component → List Component → Ordering
  | [], [] => .eq
  | [], _ :: _ => .lt
  | _ :: _, [] => .gt
  | a :: as, b :: bs => (a.compare b).then (compareComponents as bs)

/-- The first path does not come after the second one. -/
def le (p q : String) : Bool :=
  compareComponents (components p) (components q) != .gt

/-- The paths have the same components. -/
def same (p q : String) : Bool :=
  components p == components q

/-! ## Parts of a path -/

/-- The path `path` as seen from `base`: an absolute path stays as it is. -/
def join (base path : String) : String :=
  if isAbsolute path || base.isEmpty then path
  else if base.toList.getLast? == some '/' then base ++ path
  else base ++ "/" ++ path

/-- A part that counts as a component, given reversed parts before it. -/
def counts (part : String) (before : List String) : Bool :=
  (component? part).isSome || (part == "." && before.isEmpty)

/-- Drops the parts at the end, in reversed order, that count nothing. -/
def dropSilent : List String → List String
  | [] => []
  | p :: before => if counts p before then p :: before else dropSilent before

/-- The path without its last component; the root and the empty path have
none. -/
def parent? (path : String) : Option String :=
  let absolute := isAbsolute path
  let ps := (parts path).reverse
  let ps := if absolute then ps.dropLast else ps
  match dropIdle ps with
  | [] => none
  | _ :: before =>
    let rest := "/".intercalate (dropIdle before).reverse
    some (if absolute then "/" ++ rest else rest)
where
  /-- `dropSilent`, where below the root a dot counts nothing. -/
  dropIdle (ps : List String) : List String :=
    if isAbsolute path then ps.dropWhile fun p => (component? p).isNone
    else dropSilent ps

def fileName? (path : String) : Option String :=
  match (components path).getLast? with
  | some (.name s) => some s
  | _ => none

/-- The part of a file name after its last dot; a name that only starts with a
dot has none. -/
def nameExtension? (name : String) : Option String :=
  let reversed := name.toList.reverse
  let extension := reversed.takeWhile (· != '.')
  let stem := (reversed.dropWhile (· != '.')).drop 1
  if stem.isEmpty then none else some (String.ofList extension.reverse)

/-- The extension of a path's file name. -/
def extension? (path : String) : Option String :=
  (fileName? path).bind nameExtension?

end Path
end Concord
