import Concord.Suite.Error
import Concord.Text.Blank

/-!
# Configuration

The backends of a run, its limits, and where its suites are. Every setting has a
default, except that a target backend has to be given before a run.
-/

namespace Concord

/-- How a snippet reaches a command. -/
inductive SnippetInput where
  /-- The path of a file is an argument of the command. -/
  | file
  /-- The command reads the text. -/
  | stdin
  deriving DecidableEq, Inhabited

/-- A backend that runs a command. -/
structure CommandBackend where
  name : String
  command : String
  args : List String := []
  input : SnippetInput := .file
  /-- Variables set for the command, in order of their names. -/
  env : List (String × String) := []
  deriving DecidableEq, Inhabited

namespace CommandBackend

/-- The backend for a command line, which is split at white space. -/
def ofCommandLine (name line : String) : Except SetupError CommandBackend :=
  match (Text.words line.toList).map String.ofList with
  | [] => .error (.invalidBackend name "empty command")
  | command :: args => .ok { name := name, command := command, args := args }

/-- The backend names a command. -/
def check (b : CommandBackend) : Except SetupError Unit :=
  if (Text.trimBlanks b.command.toList).isEmpty then
    .error (.invalidBackend b.name "empty command")
  else .ok ()

end CommandBackend

/-- The settings of a run. -/
structure Config where
  reference : CommandBackend := { name := "reference", command := "python3" }
  target : Option CommandBackend := none
  timeoutMs : Nat := 10000
  jobs : Nat := 1
  retryTimeouts : Bool := true
  failOnUnexpectedSuccess : Bool := true
  /-- Suite files or directories. -/
  suites : List String := []
  deriving DecidableEq, Inhabited

namespace Config

/-- The limits are positive and a target is given. -/
def validate (c : Config) : Except SetupError Unit :=
  if c.jobs = 0 then .error .zeroJobs
  else if c.timeoutMs = 0 then
    .error (.invalidBackend c.reference.name "timeout must be positive")
  else if c.target.isNone then
    .error (.invalidBackend "target" "no target backend configured")
  else .ok ()

/-- The reference and the target of a valid configuration, which have different
names. -/
def backends (c : Config) :
    Except SetupError (CommandBackend × CommandBackend) := do
  c.validate
  match c.target with
  | none => .error (.invalidBackend "target" "no target backend configured")
  | some target =>
    if target.name = c.reference.name then
      .error (.invalidBackend target.name
        "reference and target need distinct names")
    else
      c.reference.check
      target.check
      .ok (c.reference, target)

end Config
end Concord
