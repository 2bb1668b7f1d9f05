import Concord.Host.Shell.Start

/-!
# Commands of the shell itself

The commands that need no program: those that change the session, send signals,
wait for jobs, or are tools that the shell has itself.
-/

namespace Concord
namespace Host
namespace Shell

open Run

/-- Runs a tool that the shell has itself. -/
def ownTool (t : Tool) (name : String) (args : List String) : Run Unit := do
  let (chunks, ended) ← captured (tool t name args)
  chunks.forM fun c => do
    match c.channel with
    | .out => replay [c]
    | .err => do
      let s ← get
      emit .err
        (Text.toBytes (s.name ++ ": " ++ toString s.line ++ ": ") ++ c.bytes)
  resume ended

/-! ## Signals and jobs -/

/-- The status that an argument asks for. -/
def statusArg (command : String) (args : List String) : Run Nat := do
  match args with
  | [] => return (← get).status
  | a :: _ =>
    match decimal? a with
    | some n =>
      if 0 ≤ n then return n.toNat % 256
      else do
        complain (command ++ ": Illegal number: " ++ a)
        throw (.exited 2)
    | none => do
      complain (command ++ ": Illegal number: " ++ a)
      throw (.exited 2)

def sendSignal (self : Script → Run Unit) (signal : Nat) (target : String) :
    Run Unit := do
  let s ← get
  match decimal? target with
  | none => do
    complain ("kill: Illegal number: " ++ target)
    setStatus 2
  | some n =>
    if n.natAbs = s.pid || n = 0 then
      if Signal.isIgnored signal then setStatus 0
      else if signal ≠ Signal.kill && (s.traps.lookup signal).isSome then do
        setStatus 0
        runText self ((s.traps.lookup signal).getD "")
      else if Signal.isHalt signal then spend s.deadline
      else throw (.died s.pid signal)
    else
      match s.jobs.find? fun j => j.pid == n.natAbs with
      | some _ => do
        modify fun s =>
          { s with jobs := s.jobs.map fun j =>
              if j.pid == n.natAbs && !Signal.isIgnored signal
                && (match j.finish with | some t => s.clock < t | none => true)
              then { j with
                finish := some s.clock
                status := 128 + signal
                signal := some signal }
              else j }
        setStatus 0
      | none => do
        complain "kill: No such process"
        setStatus 1

/-- Sends a signal, which may be named in three ways, to processes. -/
def kill (self : Script → Run Unit) (args : List String) : Run Unit := do
  let (signal?, targets) : Option Nat × List String :=
    match args with
    | "-s" :: name :: rest => (Signal.ofText? name, rest)
    | arg :: rest =>
      match arg.toList with
      | '-' :: c :: cs => (Signal.ofText? (String.ofList (c :: cs)), rest)
      | _ => (some 15, arg :: rest)
    | [] => (some 15, [])
  let targets := if targets.head? = some "--" then targets.drop 1 else targets
  match signal? with
  | none => do
    complain "kill: invalid signal number or name"
    setStatus 2
  | some signal => targets.forM (sendSignal self signal)

def await (job : Job) : Run Unit := do
  let s ← get
  match job.finish with
  | some t => do
    spend (t - s.clock)
    match job.signal with
    | some n => emit .err (Text.toBytes (Signal.description n ++ "\n"))
    | none => pure ()
  | none => spend s.deadline

/-- Waits for all jobs, or for those named. -/
def wait (args : List String) : Run Unit := do
  let s ← get
  if args.isEmpty then do
    s.jobs.forM await
    modify fun s => { s with jobs := [], status := 0 }
  else
    args.forM fun a => do
      match s.jobs.find? fun j => toString j.pid == a with
      | some j => do
        await j
        setStatus j.status
      | none => setStatus 127

def changeDirectory (args : List String) : Run Unit := do
  let s ← get
  let path := args.headD ((s.bindings.lookup "HOME").getD "/")
  match s.disk.locate path with
  | .ok names =>
    if (s.disk.root.get? names).any FileTree.isDirectory then do
      set { s with
        disk := { s.disk with workingDirectory := names }, status := 0 }
    else do
      complain ("cd: can't cd to " ++ path)
      setStatus 2
  | .error _ => do
    complain ("cd: can't cd to " ++ path)
    setStatus 2

/-- Splits a line among variables; the last one gets the rest. -/
def assignLine : List String → List Char → Run Unit
  | [], _ => pure ()
  | [name], cs =>
    let isSpace (c : Char) : Bool := c == ' ' || c == '\t'
    assign name
      (String.ofList ((cs.dropWhile isSpace).reverse.dropWhile isSpace).reverse)
  | name :: rest, cs => do
    let isSpace (c : Char) : Bool := c == ' ' || c == '\t'
    let cs := cs.dropWhile isSpace
    assign name (String.ofList (cs.takeWhile fun c => !isSpace c))
    assignLine rest (cs.dropWhile fun c => !isSpace c)

def readLine (args : List String) : Run Unit := do
  let names := (splitOptions args).2
  let input := (← get).input
  let line := input.takeWhile (· != lineFeed)
  let complete := line.length < input.length
  modify fun s => { s with input := input.drop (line.length + 1) }
  assignLine names (Text.ofBytes line)
  setStatus (if complete then 0 else 1)

def setOptions : List String → Run Unit
  | [] => setStatus 0
  | arg :: rest => do
    if arg = "--" then modify fun s => { s with params := rest, status := 0 }
    else
      match arg.toList with
      | '-' :: options => do
        modify fun s =>
          { s with
            stopOnFailure := s.stopOnFailure || options.contains 'e'
            strictNames := s.strictNames || options.contains 'u' }
        setOptions rest
      | '+' :: options => do
        modify fun s =>
          { s with
            stopOnFailure := s.stopOnFailure && !options.contains 'e'
            strictNames := s.strictNames && !options.contains 'u' }
        setOptions rest
      | _ => modify fun s => { s with params := arg :: rest, status := 0 }

/-- Keeps a script for signals, or forgets those kept. -/
def setTraps (args : List String) : Run Unit := do
  match args with
  | source :: names => do
    let signals :=
      names.filterMap fun n => if n = "EXIT" then some 0 else Signal.ofText? n
    modify fun s =>
      let others := s.traps.filter fun t => !signals.contains t.1
      { s with
        traps :=
          if source = "-" then others else signals.map (·, source) ++ others }
    setStatus 0
  | [] => setStatus 0

/-- A command that the shell carries out itself, if it has one of that name. -/
def builtin? (self : Script → Run Unit) (name : String) :
    Option (List String → Run Unit) :=
  let loops (args : List String) : Nat :=
    ((decimal? (args.headD "1")).getD 1).toNat
  if name = ":" || name = "true" then some fun _ => setStatus 0
  else if name = "false" then some fun _ => setStatus 1
  else if name = "echo" then some (ownTool (echo true) name)
  else if name = "printf" then some (ownTool printf name)
  else if name = "test" || name = "[" then some (ownTool test name)
  else if name = "pwd" then some (ownTool pwd name)
  else if name = "exit" then
    some fun args => do throw (.exited (← statusArg name args))
  else if name = "return" then
    some fun args => do throw (.returned (← statusArg name args))
  else if name = "break" then
    some fun args => throw (.leftLoop (loops args) false)
  else if name = "continue" then
    some fun args => throw (.leftLoop (loops args) true)
  else if name = "cd" then some changeDirectory
  else if name = "kill" then some (kill self)
  else if name = "wait" then some wait
  else if name = "read" then some readLine
  else if name = "set" then some setOptions
  else if name = "shift" then
    some fun args => modify fun s =>
      { s with params := s.params.drop (loops args), status := 0 }
  else if name = "export" || name = "local" || name = "readonly" then
    some fun args => do
      let names ← assignArgs args
      if name = "export" then names.forM exportName
      setStatus 0
  else if name = "unset" then
    some fun args => do
      args.forM unset
      setStatus 0
  else if name = "eval" then
    some fun args => do
      setStatus 0
      runText self (" ".intercalate args)
  else if name = "trap" then some setTraps
  else if name = "umask" || name = "ulimit" then some fun _ => setStatus 0
  else none

end Shell
end Host
end Concord
