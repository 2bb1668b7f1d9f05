import Concord.Host.Expansion

/-!
# Redirection

Commands whose channels lead elsewhere: to a file, to another channel, or
nowhere. A command runs to its end first, and what it printed is then led to its
places in order.
-/

namespace Concord
namespace Host
namespace Shell

open Run

/-- Where a channel leads. -/
inductive Sink where
  | channel (c : Channel)
  | file (path : String)
  | nowhere
  deriving DecidableEq

/-- Where both channels lead. -/
structure Sinks where
  out : Sink := .channel .out
  err : Sink := .channel .err

def Sinks.get (s : Sinks) (n : Nat) : Sink :=
  if n = 1 then s.out else if n = 2 then s.err else .nowhere

/-- Leads a numbered channel elsewhere. -/
def Sinks.set (s : Sinks) (n : Nat) (sink : Sink) : Sinks :=
  if n = 1 then { s with out := sink }
  else if n = 2 then { s with err := sink } else s

/-- Opens a file for writing; it gives no sink where that fails. -/
def openFile (sinks : Sinks) (path : String) (append : Bool) :
    Run (Option Sink) := do
  if path = "/dev/stdout" then return some sinks.out
  else if path = "/dev/stderr" then return some sinks.err
  else
    let d := (← get).disk
    let old :=
      if append then (d.readBytes path).toOption.getD ByteArray.empty
      else ByteArray.empty
    match d.write path old with
    | .ok d =>
      modify fun s => { s with disk := d }
      return some (.file path)
    | .error fault => do
      let why :=
        if fault = .notFound then "Directory nonexistent" else fault.text
      complain ("cannot create " ++ path ++ ": " ++ why)
      return none

def appendFile (path : String) (bytes : Bytes) : Run Unit :=
  modify fun s =>
    let old := ((s.disk.readBytes path).toOption.getD ByteArray.empty).toList
    match s.disk.write path ⟨(old ++ bytes).toArray⟩ with
    | .ok d => { s with disk := d }
    | .error _ => s

/-- Leads a chunk to its sink. -/
def deliver (sinks : Sinks) (c : Chunk) : Run Unit :=
  let sink :=
    match c.channel with
    | .out => sinks.out
    | .err => sinks.err
  match sink with
  | .channel channel =>
    modify fun s => { s with log := { c with channel := channel } :: s.log }
  | .file path => appendFile path c.bytes
  | .nowhere => pure ()

/-- Carries out redirections in order; it gives no sinks where one fails. -/
def redirect (self : Script → Run Unit) :
    Sinks → List Redirect → Run (Option Sinks)
  | sinks, [] => return some sinks
  | sinks, r :: rest => do
    match r with
    | .read file =>
      let path ← expandText self file
      let s ← get
      match s.disk.readBytes path with
      | .ok bytes =>
        modify fun s => { s with input := bytes.toList }
        redirect self sinks rest
      | .error fault =>
        let why := if fault = .notFound then "No such file" else fault.text
        complain ("cannot open " ++ path ++ ": " ++ why)
        return none
    | .document text =>
      let body ← expandText self text
      modify fun s => { s with input := Text.toBytes body }
      redirect self sinks rest
    | .write channel append file =>
      match ← openFile sinks (← expandText self file) append with
      | some sink => redirect self (sinks.set channel sink) rest
      | none => return none
    | .duplicate channel other =>
      redirect self (sinks.set channel (sinks.get other)) rest
    | .close channel => redirect self (sinks.set channel .nowhere) rest

def redirected (self : Script → Run Unit) (a : Script) (rs : List Redirect) :
    Run Unit := do
  let input := (← get).input
  match ← redirect self {} rs with
  | none => setStatus 2
  | some sinks =>
    let (chunks, ended) ← captured (self a)
    chunks.forM (deliver sinks)
    let reads := rs.any fun
      | .read _ | .document _ => true
      | _ => false
    if reads then modify fun s => { s with input := input }
    resume ended

end Shell
end Host
end Concord
