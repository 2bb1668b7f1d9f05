import Concord.Host.Expansion
import Concord.Host.Signal

/-!
# Starting programs

Programs are run in place of the shell or beside it. A shell is itself a
program, which reads its script from an argument, from a file or from its input.
-/

namespace Concord
namespace Host
namespace Shell

open Run

/-! ## Shells -/

/-- How a shell is called. -/
structure Call where
  options : List Char := []
  operands : List String := []

def Call.ofArgs (args : List String) : Call :=
  let (options, operands) := splitOptions args
  { options := options, operands := operands }

/-- Runs the script kept for the end of the shell, and ends it with a status. -/
def runLast (self : Script → Run Unit) (source : String) (status : Nat) :
    Run Unit := do
  modify fun s =>
    { s with traps := s.traps.filter (·.1 != 0), status := status }
  runText self source
  throw (.exited status)

/-- Runs commands as those of a whole shell. -/
def closing (self : Script → Run Unit) (act : Run Unit) : Run Unit := do
  let ended ← attempt act
  let s ← get
  match s.traps.lookup 0, ended with
  | some source, none => runLast self source s.status
  | some source, some (.exited n) => runLast self source n
  | _, _ => resume ended

/-- Runs a script as a shell of its own, which replaces the one that runs. -/
def runShell (self : Script → Run Unit) (args : List String) : Run Unit := do
  let call := Call.ofArgs args
  modify fun s =>
    { s with
      name := "sh", line := 1, params := [], bindings := s.environment
      functions := [], jobs := [], status := 0, asked := false, traps := []
      stopOnFailure := call.options.contains 'e'
      strictNames := call.options.contains 'u' }
  let start (source name : String) (params : List String) : Run Unit := do
    modify fun s => { s with name := name, params := params }
    closing self (runText self source)
  if call.options.contains 'c' then
    match call.operands with
    | [] => do
      emit .err (Text.toBytes "sh: 0: -c requires an argument\n")
      throw (.exited 2)
    | [source] => start source "sh" []
    | source :: name :: params => start source name params
  else if call.options.contains 's' then do
    let source := String.ofList (Text.ofBytes (← get).input)
    modify fun s => { s with input := [] }
    start source "sh" call.operands
  else
    match call.operands with
    | [] => do
      let source := String.ofList (Text.ofBytes (← get).input)
      modify fun s => { s with input := [] }
      start source "sh" []
    | file :: params => do
      match (← get).disk.readBytes file with
      | .ok bytes =>
        start (String.ofList (Text.ofBytes bytes.toList)) file params
      | .error fault =>
        let why := if fault = .notFound then "No such file" else fault.text
        emit .err
          (Text.toBytes ("sh: 0: cannot open " ++ file ++ ": " ++ why ++ "\n"))
        throw (.exited 2)

/-! ## Programs -/

/-- Sets variables from arguments such as `name=value` and gives their names. -/
def assignArgs (args : List String) : Run (List String) :=
  args.mapM fun a => do
    let (name, value) := Text.cutAt '=' a.toList
    if a.toList.contains '=' then
      assign (String.ofList name) (String.ofList value)
    return String.ofList name

def lookUp (name : String) : Run (Except SpawnFault Program) := do
  let s ← get
  return findProgram s.disk (s.bindings.lookup "PATH") name

/-- Complains about a program that cannot be started. -/
def missing (name : String) : SpawnFault → Run Unit
  | .denied | .notDirectory => do
    complain (name ++ ": Permission denied")
    setStatus 126
  | .notFound | .invalidText => do
    complain (name ++ ": not found")
    setStatus 127

/-- Runs a program in place of what runs. -/
def replaceBy (self : Script → Run Unit) :
    (fuel : Nat) → Program → (name : String) → List String → Run Unit
  | 0, _, _, _ => throw .timedOut
  | _ + 1, .tool t, name, args => tool t name args
  | _ + 1, .shell, _, args => runShell self args
  | fuel + 1, .env, _, args => do
    let isSetting (a : String) : Bool := a.toList.contains '='
    let names ← assignArgs (args.takeWhile isSetting)
    names.forM exportName
    match args.dropWhile isSetting with
    | [] => tool printenv "env" []
    | name :: args =>
      match ← lookUp name with
      | .ok p => replaceBy self fuel p name args
      | .error fault => do
        let why :=
          if fault = .notFound then "No such file or directory"
          else "Permission denied"
        emit .err (Text.toBytes ("env: '" ++ name ++ "': " ++ why ++ "\n"))
        setStatus (if fault = .notFound then 127 else 126)

/-- Runs a program beside what runs. -/
def startProgram (self : Script → Run Unit) (p : Program) (name : String)
    (args : List String) : Run Unit := do
  match p with
  | .tool t => tool t name args
  | .shell | .env =>
    let pid := (← get).nextPid
    let ended ← attempt (inSubshell do
      modify fun s => { s with pid := pid, nextPid := pid + 1 }
      replaceBy self (args.length + 2) p name args)
    match ended with
    | none => pure ()
    | some (.died victim signal) =>
      if victim = pid then do
        emit .err (Text.toBytes (Signal.description signal ++ "\n"))
        setStatus (128 + signal)
      else throw (.died victim signal)
    | some e => throw e

end Shell
end Host
end Concord
