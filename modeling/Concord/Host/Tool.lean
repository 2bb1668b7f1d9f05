import Concord.Host.Tool.Condition
import Concord.Host.Tool.Files
import Concord.Host.Tool.Filter
import Concord.Host.Tool.Format

/-!
# The programs of the host

The tools by their names. They stand in `/bin` and `/usr/bin`; the shell is one
more program there.
-/

namespace Concord
namespace Host

def tools : List (String × Tool) :=
  [("true", fun _ => {}), ("false", fun _ => { status := 1 }), ("cat", cat),
    ("wc", wc), ("tr", tr), ("sort", sortLines), ("uniq", uniq), ("head", head),
    ("tail", tail), ("grep", grep), ("seq", seq), ("ls", ls), ("pwd", pwd),
    ("basename", basename), ("dirname", dirname), ("mkdir", mkdir),
    ("touch", touch), ("rm", rm), ("tee", tee), ("sleep", sleep),
    ("printenv", printenv), ("printf", printf), ("echo", echo false),
    ("test", test), ("[", test)]

def shellNames : List String :=
  ["sh", "dash"]

def programDirectories : List String :=
  ["/bin", "/usr/bin"]

/-- A program is a tool, the shell, or the one that runs another program with
more variables. -/
inductive Program where
  | tool (t : Tool)
  | shell
  | env

def programNamed? (name : String) : Option Program :=
  if shellNames.contains name then some .shell
  else if name = "env" then some .env
  else (tools.lookup name).map .tool

/-- Why a program cannot be started. -/
inductive SpawnFault where
  | notFound
  | notDirectory
  | denied
  | invalidText
  deriving DecidableEq

/-- How a failed start is reported. -/
def SpawnFault.message : SpawnFault → String
  | .notFound => "No such file or directory (os error 2)"
  | .notDirectory => "Not a directory (os error 20)"
  | .denied => "Permission denied (os error 13)"
  | .invalidText => "nul byte found in provided data"

/-- Looks a program up: by its path, or by its name in the directories of the
variable `PATH`. -/
def findProgram (d : Disk) (path : Option String) (name : String) :
    Except SpawnFault Program :=
  if name.toList.contains '/' then
    let directory := (Path.parent? name).getD ""
    match (if programDirectories.contains directory then
      (Path.fileName? name).bind programNamed?
      else none) with
    | some p => .ok p
    | none =>
      match d.locate name with
      | .ok _ => .error .denied
      | .error .notDirectory => .error .notDirectory
      | .error _ => .error .notFound
  else
    let reachable :=
      match path with
      | none => true
      | some text =>
        (text.splitOn ":").any fun p =>
          programDirectories.contains (Disk.dropSlashes p)
    match if reachable then programNamed? name else none with
    | some p => .ok p
    | none => .error .notFound

end Host
end Concord
