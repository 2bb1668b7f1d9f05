import Concord.Backend
import Concord.Config.Basic
import Concord.Host.Shell

/-!
# Processes

A command as a backend. Each execution is a fresh process in a scratch
directory, which holds the snippet and is gone afterwards, and the process is
killed when its time is up. What it does to the rest of the disk stays.
-/

namespace Concord

namespace CommandBackend

/-- Stands for the path of the snippet in an argument. -/
def placeholder : String := "\x7bsource\x7d"

/-- The arguments of the command for a snippet at a path. Unless the command
reads the snippet or an argument says where the path goes, it comes last. -/
def resolvedArgs (b : CommandBackend) (path : String) : List String :=
  let replaced := b.args.map fun a =>
    String.ofList (Text.replaceAll placeholder.toList path.toList a.toList)
  if b.input = .file && !b.args.any (Text.contains · placeholder) then
    replaced ++ [path]
  else replaced

end CommandBackend

namespace Host
namespace Process

/-! ## The end of a process -/

/-- How a process ends. -/
inductive Exit where
  | status (code : Nat)
  | signal (number : Nat)
  | killed
  deriving DecidableEq

namespace Exit

/-- The exit code, unless a signal ended the process. -/
def code? : Exit → Option Int
  | .status code => some code
  | .signal _ | .killed => none

def text : Exit → String
  | .status code => "exit status: " ++ toString code
  | .signal n =>
    "signal: " ++ toString n ++
      ((Signal.name? n).elim "" fun name => " (SIG" ++ name ++ ")")
  | .killed => "killed after timeout"

/-- The exit of a process whose last status is known and whose commands may have
ended early. -/
def ofEnded (status : Nat) : Option Ended → Exit
  | none | some (.leftLoop _ _) => .status status
  | some (.exited code) | some (.returned code) => .status code
  | some (.died _ n) => .signal n
  | some .timedOut => .killed

end Exit

/-- The text that a process printed on a channel until it ended, in order of
time. -/
def printed (channel : Channel) (finish : Nat) (chunks : List Chunk) : String :=
  let kept := chunks.filter fun c => c.channel = channel && c.time ≤ finish
  let ordered := kept.mergeSort fun a b => a.time ≤ b.time
  String.ofList (Text.ofBytes (ordered.flatMap Chunk.bytes))

/-! ## The start of a process -/

/-- The scratch directory. -/
def scratch : String := "/tmp/parity-scratch"

def snippetPath : String := Path.join scratch "snippet.py"

/-- Makes the scratch directory, with the snippet and the files that take what
is printed. -/
def prepare (d : Disk) (source : String) : Except FileFault Disk := do
  let d ← d.makePath scratch
  let d ← d.write snippetPath source.toUTF8
  let d ← d.write (Path.join scratch "stdout") ByteArray.empty
  let d ← d.write (Path.join scratch "stderr") ByteArray.empty
  .ok { d with workingDirectory := ← d.locate scratch }

/-- Removes the scratch directory and goes back to the working directory
before. -/
def clean (before d : Disk) : Disk :=
  { (d.remove scratch).toOption.getD d with
    workingDirectory := before.workingDirectory }

/-- The variables of every process. -/
def hostVariables : List (String × String) :=
  [("PATH", "/usr/local/sbin:/usr/local/bin:/usr/sbin:/usr/bin:/sbin:/bin"),
    ("PWD", scratch)]

/-- The state in which a command starts. -/
def session (b : CommandBackend) (source : String) (timeoutMs : Nat)
    (d : Disk) : Session :=
  let names := b.env.map (·.1)
  let bindings := hostVariables.filter (fun v => !names.contains v.1) ++ b.env
  { disk := d
    deadline := timeoutMs
    input := match b.input with
      | .file => []
      | .stdin => source.toUTF8.toList
    bindings := bindings
    exported := bindings.map (·.1) }

/-- No text that goes to the process holds a null character. -/
def isSendable (b : CommandBackend) : Bool :=
  (b.command :: b.args ++ b.env.flatMap fun v => [v.1, v.2]).all fun text =>
    !text.toList.contains (Char.ofNat 0)

def programOf (b : CommandBackend) (s : Session) : Except SpawnFault Program :=
  if isSendable b then findProgram s.disk (s.bindings.lookup "PATH") b.command
  else .error .invalidText

/-- Runs a process to its end. With no time at all it is killed before it does
anything. -/
def finish (p : Program) (name : String) (args : List String) (s : Session) :
    Option Ended × Session :=
  if s.deadline = 0 then (some .timedOut, s)
  else
    let run :=
      Shell.replaceBy (Shell.exec Shell.depthLimit)
        (args.length + 2) p name args
    match StateT.run (ExceptT.run (Run.attempt run)) s with
    | (.ok ended, s) => (ended, s)
    | (.error e, s) => (some e, s)

/-- Executes a snippet and gives the transcript and the disk afterwards. -/
def execute (b : CommandBackend) (source : String) (timeoutMs : Nat)
    (d : Disk) : Except Fault (Transcript × Disk) := do
  let prepared ← (prepare d source).mapError fun f => .scratch b.name f.message
  let s := session b source timeoutMs prepared
  let p ← (programOf b s).mapError fun f => .spawn b.name f.message
  let (ended, s) := finish p b.command (b.resolvedArgs snippetPath) s
  let exit := Exit.ofEnded s.status ended
  let chunks := s.log.reverse
  .ok
    ({ exitCode := exit.code?
       status := exit.text
       stdout := printed .out s.clock chunks
       stderr := printed .err s.clock chunks
       timedOut := exit = .killed
       elapsedMs := s.clock },
      clean d s.disk)

end Process
end Host

/-- The backend that runs the command on the host, whose disk is the state. -/
def CommandBackend.onHost (b : CommandBackend) : Backend Disk where
  name := b.name
  execute source timeoutMs := do
    match Host.Process.execute b source timeoutMs (← get) with
    | .ok (transcript, d) => do
      set d
      return transcript
    | .error f => throw (.fault f)

end Concord
