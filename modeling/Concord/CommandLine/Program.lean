import Concord.CommandLine.Arguments
import Concord.Host.Process
import Concord.Matrix.Builtin
import Concord.Run.Configured
import Concord.Suite.Discovery

/-!
# The program

From the arguments to what is printed, written and returned. The exit code is
zero for a run that passed, one for a run that failed and two where there is no
result.
-/

namespace Concord
namespace Program

/-- Why the program has no result. -/
inductive Abort where
  | arguments (p : Arguments.Problem)
  | configuration (p : Arguments.ConfigProblem)
  | suites (e : SetupError)
  | backends (e : SetupError)
  | fault (f : Fault)
  | panicked
  | output (path : String) (f : Disk.WriteFault)
  deriving DecidableEq

/-- The report of the host on which a fault rests. -/
def hostReason? : Fault → Option String
  | .spawn _ reason | .wait _ reason | .scratch _ reason => some reason
  | .unknownType _ | .snippet _ | .workerPanicked => none

namespace Abort

/-- The abort of a run that gives no report. -/
def ofRunFailure : RunFailure → Abort
  | .setup e => .backends e
  | .stopped (.fault f) => .fault f
  | .stopped .panicked => .panicked

/-- How an abort is reported: what was attempted, what went wrong, and once more
what the host said. -/
def message : Abort → String
  | .arguments p => "Invalid arguments: " ++ p.message
  | .configuration p => p.message
  | .suites e => "Cannot load suites: " ++ e.message
  | .backends e => "Parity run aborted: " ++ e.message
  | .fault f =>
    "Parity run aborted: " ++ f.message ++
      ((hostReason? f).elim "" fun reason => ": " ++ reason)
  | .panicked => "Parity run aborted: " ++ Fault.workerPanicked.message
  | .output path f =>
    "Cannot write output: " ++ path ++ ": " ++ f.message ++ ": " ++
      f.fault.message

end Abort

/-- What the program leaves behind. -/
structure Finish where
  exitCode : Nat
  stdout : String := ""
  stderr : String := ""
  disk : Disk

/-- Writes a text to the output file, or prints it where none is given. -/
def emit (a : Arguments) (d : Disk) (text : String) :
    Except Abort (String × Disk) :=
  match a.outputFile with
  | none => .ok (text, d)
  | some path => do
    let d ← (d.writeWithParents path text.toUTF8).mapError (.output path)
    .ok ("", d)

def countsLine (s : Summary) : String :=
  toString s.total ++ " cases: " ++ toString s.passed ++ " passed, " ++
    toString s.failed
    ++ " failed, " ++ toString s.expectedFailures ++ " expected failures, "
    ++ toString s.unexpectedSuccesses ++ " unexpected successes\n"

/-- The text of a report in a format. -/
def render (format : OutputFormat) (strict : Bool) (r : Report) : String :=
  match format with
  | .text => r.text strict
  | .json => r.toJson.pretty

def list (a : Arguments) (d : Disk) (m : TypeMatrix) (suites : List Suite) :
    Except Abort Finish := do
  let listing := "\n".intercalate (listCases suites m a.filter) ++ "\n"
  let (stdout, d) ← emit a d listing
  .ok { exitCode := 0, stdout := stdout, disk := d }

def publish (a : Arguments) (strict : Bool) (d : Disk) (r : Report) :
    Except Abort Finish := do
  let (stdout, d) ← emit a d (render a.format strict r)
  let counted := a.format = .json && a.outputFile.isSome && !a.quiet
  .ok
    { exitCode := if r.isSuccess strict then 0 else 1
      stdout := stdout
      stderr := if counted then countsLine r.summary else ""
      disk := d }

/-- Does what understood arguments ask for. -/
def runArguments (b : SnippetBuilder) (a : Arguments) (d : Disk) :
    Except Abort Finish := do
  (a.validate d).mapError .arguments
  let config ← (a.resolve d).mapError .configuration
  let m := TypeMatrix.builtin
  let suites ← (Suite.loadAll d m config.suites).mapError .suites
  if a.list then list a d m suites
  else
    match config.run b m CommandBackend.onHost suites a.filter d with
    | (.error e, _) => .error (.ofRunFailure e)
    | (.ok report, d) => publish a config.failOnUnexpectedSuccess d report

/-- Runs the program on arguments; `b` builds its snippets. -/
def run (b : SnippetBuilder) (argv : List String) (d : Disk) : Finish :=
  match Arguments.read argv with
  | .error e => { exitCode := e.exitCode, disk := d }
  | .ok a =>
    match runArguments b a d with
    | .ok result => result
    | .error e =>
      { exitCode := 2, stderr := "Error: " ++ e.message ++ "\n", disk := d }

end Program
end Concord
