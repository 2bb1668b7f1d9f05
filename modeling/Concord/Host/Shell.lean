import Concord.Host.Shell.Builtin
import Concord.Host.Shell.Control
import Concord.Host.Shell.Redirection

/-!
# The shell

Running the commands of a script. `Shell.exec` runs a command on a fuel that
bounds how deeply commands stand within each other, turns of loops included; a
script that uses it up counts as one that never ends.
-/

namespace Concord
namespace Host
namespace Shell

open Run

/-! ## Simple commands -/

/-- Runs a command by its name. -/
def invoke (self : Script → Run Unit) :
    (fuel : Nat) → (name : String) → List String → Run Unit
  | 0, _, _ => throw .timedOut
  | fuel + 1, name, args => do
    let s ← get
    if name = "exec" then
      match args with
      | [] => setStatus 0
      | name :: args => do
        match ← lookUp name with
        | .ok p => replaceBy self (args.length + 2) p name args
        | .error fault => missing ("exec: " ++ name) fault
        throw (.exited (← get).status)
    else if name = "command" then
      match args with
      | "-v" :: names => do
        let known (n : String) : Bool :=
          (builtin? self n).isSome || (programNamed? n).isSome ||
            (s.functions.lookup n).isSome
        (names.filter known).forM fun n =>
          emit .out (Text.toBytes
            ((if (builtin? self n).isSome then n
              else "/usr/bin/" ++ n) ++ "\n"))
        setStatus (if names.all known then 0 else 127)
      | name :: args => invoke self fuel name args
      | [] => setStatus 0
    else if name = "." then
      match args with
      | [] => setStatus 0
      | file :: _ =>
        match s.disk.readBytes file with
        | .ok bytes => runText self (String.ofList (Text.ofBytes bytes.toList))
        | .error _ => do
          if file.toList.contains '/' then
            complain (".: cannot open " ++ file ++ ": No such file")
          else complain (".: " ++ file ++ ": not found")
          throw (.exited 2)
    else
      match s.functions.lookup name, builtin? self name with
      | some body, _ => do
        modify fun s => { s with params := args }
        let ended ← attempt (self body)
        modify fun t => { t with params := s.params }
        match ended with
        | some (.returned n) => setStatus n
        | ended => resume ended
      | none, some run => run args
      | none, none => do
        match ← lookUp name with
        | .ok p => startProgram self p name args
        | .error fault => missing name fault

def runsScript (word : Word) : Bool :=
  word.any fun
    | .output _ _ => true
    | _ => false

/-- Runs a simple command. Without a name its status is that of the last script
that its words run. -/
def simple (self : Script → Run Unit) (line : Nat)
    (assignments : List (String × Word)) (words : List Word) : Run Unit := do
  modify fun s => { s with line := line }
  let args ← expandWords self words
  match args with
  | [] => do
    assignments.forM fun (name, w) => do assign name (← expandText self w)
    if (words ++ assignments.map (·.2)).any runsScript then pure ()
    else setStatus 0
  | name :: args => do
    let values ← assignments.mapM fun (n, w) => do
      return (n, ← expandText self w)
    let saved ← get
    values.forM fun (n, v) => do
      assign n v
      exportName n
    let ended ← attempt (invoke self (args.length + 2) name args)
    if !values.isEmpty then
      modify fun s =>
        { s with bindings := saved.bindings, exported := saved.exported }
    resume ended
  checkFailure

/-! ## Commands -/

/-- Runs a command; `self` runs the commands inside it. -/
def step (self : Script → Run Unit) : Script → Run Unit
  | .nothing => pure ()
  | .simple line assignments words => simple self line assignments words
  | .seq a b => do
    self a
    self b
  | .both a b => do
    asking (self a)
    if (← get).status = 0 then self b else pure ()
  | .either a b => do
    asking (self a)
    if (← get).status = 0 then pure () else self b
  | .negate a => do
    asking (self a)
    modify fun s => { s with status := if s.status = 0 then 1 else 0 }
  | .pipe a b => do
    pipe self a b
    checkFailure
  | .background a => background self a
  | .subshell a => do
    inSubshell (self a)
    checkFailure
  | .redirected a rs => redirected self a rs
  | .cond test yes no => do
    asking (self test)
    if (← get).status = 0 then self yes
    else do
      setStatus 0
      self no
  | .loop whileFailing test body => do
    asking (self test)
    if ((← get).status = 0) != whileFailing then
      if ← turn self body then pure () else self (.loop whileFailing test body)
    else setStatus 0
  | .forEach name words body => do
    let values ← match words with
      | some ws => expandWords self ws
      | none => pure (← get).params
    setStatus 0
    turns self name body values
  | .select subject arms => do
    let text ← expandText self subject
    runArms self text arms
  | .arm _ _ _ => pure ()
  | .define name body =>
    modify fun s =>
      { s with functions := (name, body) :: s.functions, status := 0 }

/-- Runs a command with at most `fuel` commands within each other. -/
def exec : (fuel : Nat) → Script → Run Unit
  | 0, _ => do
    modify fun s => { s with clock := s.deadline }
    throw .timedOut
  | fuel + 1, script => step (exec fuel) script

/-- How many commands may stand within each other. -/
def depthLimit : Nat := 4000

end Shell
end Host
end Concord
