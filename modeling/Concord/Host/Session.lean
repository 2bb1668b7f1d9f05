import Concord.Host.Script.Basic
import Concord.Host.Tool

/-!
# Sessions of a shell

The state in which a script runs, and how a run of commands ends. Time is
counted in milliseconds from the start of the process and passes only while a
command waits. What is printed carries the time at which it was.
-/

namespace Concord
namespace Host

/-- Where output goes. -/
inductive Channel where
  | out
  | err
  deriving DecidableEq

/-- Something printed. -/
structure Chunk where
  time : Nat
  channel : Channel
  bytes : Bytes

/-- Why commands stop before their end. -/
inductive Ended where
  | exited (status : Nat)
  | died (pid signal : Nat)
  | timedOut
  /-- A loop is left, or goes on with its next turn; `loops` counts the loops
  around. -/
  | leftLoop (loops : Nat) (next : Bool)
  | returned (status : Nat)
  deriving DecidableEq

/-- A command in the background. -/
structure Job where
  pid : Nat
  /-- The time of its end, if that lies before the time limit. -/
  finish : Option Nat
  status : Nat
  /-- The signal that ended it. -/
  signal : Option Nat := none

/-- The state of a shell. -/
structure Session where
  disk : Disk
  clock : Nat := 0
  /-- The time at which everything is killed. -/
  deadline : Nat
  input : Bytes := []
  /-- What was printed, last things first. -/
  log : List Chunk := []
  name : String := "sh"
  line : Nat := 1
  params : List String := []
  bindings : List (String × String) := []
  exported : List String := []
  functions : List (String × Script) := []
  status : Nat := 0
  jobs : List Job := []
  /-- Scripts that run when a signal comes or, as signal zero, when the shell
  ends. -/
  traps : List (Nat × String) := []
  pid : Nat := 1000
  nextPid : Nat := 1001
  /-- A failing command ends the shell. -/
  stopOnFailure : Bool := false
  /-- Unset variables are errors. -/
  strictNames : Bool := false
  /-- A failing command is being asked about. -/
  asked : Bool := false

/-- A computation in a session. -/
abbrev Run := ExceptT Ended (StateM Session)

namespace Session

/-- The variables that programs get. -/
def environment (s : Session) : List (String × String) :=
  s.bindings.filter fun v => s.exported.contains v.1

end Session

namespace Run

def setStatus (n : Nat) : Run Unit :=
  modify fun s => { s with status := n }

def emit (channel : Channel) (bytes : Bytes) : Run Unit :=
  if bytes.isEmpty then pure ()
  else modify fun s => { s with log := ⟨s.clock, channel, bytes⟩ :: s.log }

/-- Complains in the name of the shell. -/
def complain (text : String) : Run Unit := do
  let s ← get
  emit .err
    (Text.toBytes (s.name ++ ": " ++ toString s.line ++ ": " ++ text ++ "\n"))

/-- Lets time pass, at most up to the time limit. -/
def spend (ms : Nat) : Run Unit := do
  let s ← get
  if s.clock + ms < s.deadline then set { s with clock := s.clock + ms }
  else do
    set { s with clock := s.deadline }
    throw .timedOut

/-- Runs commands and gives how they ended early, if they did. -/
def attempt (act : Run Unit) : Run (Option Ended) :=
  tryCatch (do act; pure none) fun e => pure (some e)

/-- Goes on as an attempt ended. -/
def resume : Option Ended → Run Unit
  | none => pure ()
  | some e => throw e

/-- Runs commands and gives what they print instead of printing it. -/
def captured (act : Run Unit) : Run (List Chunk × Option Ended) := do
  let before := (← get).log
  modify fun s => { s with log := [] }
  let ended ← attempt act
  let chunks := (← get).log.reverse
  modify fun s => { s with log := before }
  return (chunks, ended)

/-- Prints what was captured. -/
def replay (chunks : List Chunk) : Run Unit :=
  modify fun s => { s with log := chunks.reverse ++ s.log }

def bytesOf (channel : Channel) (chunks : List Chunk) : Bytes :=
  (chunks.filter fun c => c.channel = channel).flatMap Chunk.bytes

/-- Runs commands in a shell of their own: it starts as a copy, and only what it
prints, reads and writes to the disk, and the time it takes, remain. -/
def inSubshell (act : Run Unit) : Run Unit := do
  let before ← get
  let ended ← attempt act
  modify fun s =>
    { before with
      disk := { s.disk with workingDirectory := before.disk.workingDirectory }
      clock := s.clock, input := s.input, log := s.log
      nextPid := s.nextPid, status := s.status }
  match ended with
  | none | some (.leftLoop ..) => pure ()
  | some (.exited n) | some (.returned n) => setStatus n
  | some e => throw e

def tool (t : Tool) (name : String) (args : List String) : Run Unit := do
  let s ← get
  let r :=
    t { name := name
        args := args
        input := s.input
        disk := s.disk
        env := s.environment }
  spend r.durationMs
  modify fun s =>
    { s with
      disk := r.disk.getD s.disk
      input := if r.readsInput then [] else s.input }
  emit .out r.out
  emit .err r.err
  setStatus r.status

/-! ## Variables -/

def assign (name value : String) : Run Unit :=
  modify fun s =>
    { s with bindings := s.bindings.filter (·.1 != name) ++ [(name, value)] }

/-- Makes programs get a variable. -/
def exportName (name : String) : Run Unit :=
  modify fun s => { s with exported := name :: s.exported }

def unset (name : String) : Run Unit :=
  modify fun s => { s with bindings := s.bindings.filter (·.1 != name) }

end Run

def Session.parameter? (s : Session) (name : String) : Option String :=
  if name = "#" then some (toString s.params.length)
  else if name = "?" then some (toString s.status)
  else if name = "$" then some (toString s.pid)
  else if name = "!" then (s.jobs.getLast?).map fun j => toString j.pid
  else if name = "-" then some (if s.stopOnFailure then "e" else "")
  else if name = "0" then some s.name
  else if name = "@" || name = "*" then
    if s.params.isEmpty then none else some (" ".intercalate s.params)
  else if name.toList.all Char.isDigit then
    (decimal? name).bind fun n => s.params[n.toNat - 1]?
  else s.bindings.lookup name

end Host
end Concord
