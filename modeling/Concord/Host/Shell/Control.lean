import Concord.Host.Expansion

/-!
# Pipes, jobs and loops

Commands that run others: at the same time, in the background, again and again,
or one of several. Each is given `self`, which runs the commands inside it.
-/

namespace Concord
namespace Host
namespace Shell

open Run

/-- Runs two commands at the same time, the second one on what the first one
prints. -/
def pipe (self : Script → Run Unit) (a b : Script) : Run Unit := do
  let start := (← get).clock
  let (chunks, ended) ← captured (inSubshell (self a))
  replay (chunks.filter fun c => c.channel = .err)
  resume ended
  let between ← get
  modify fun s => { s with input := bytesOf .out chunks, clock := start }
  let ended ← attempt (inSubshell (self b))
  modify fun s =>
    { s with input := between.input, clock := max s.clock between.clock }
  resume ended

def background (self : Script → Run Unit) (a : Script) : Run Unit := do
  let before ← get
  modify fun s => { s with input := [], nextPid := s.nextPid + 1 }
  let ended ← attempt (inSubshell (self a))
  let after ← get
  let job : Job :=
    { pid := before.nextPid
      finish := if ended = some .timedOut then none else some after.clock
      status := after.status }
  modify fun s =>
    { s with
      clock := before.clock, input := before.input, jobs := s.jobs ++ [job],
      status := 0 }
  match ended with
  | none | some .timedOut => pure ()
  | some e => throw e

/-- Runs one turn of a loop and tells whether the loop ends with it. -/
def turn (self : Script → Run Unit) (body : Script) : Run Bool := do
  match ← attempt (self body) with
  | none => return false
  | some (.leftLoop loops next) =>
    if 1 < loops then throw (.leftLoop (loops - 1) next) else return !next
  | some e => throw e

/-- Runs the turns of a loop over words. -/
def turns (self : Script → Run Unit) (name : String) (body : Script) :
    List String → Run Unit
  | [] => pure ()
  | w :: rest => do
    assign name w
    if ← turn self body then pure () else turns self name body rest

/-- Runs a command whose failure is being asked about. -/
def asking (act : Run Unit) : Run Unit := do
  let before := (← get).asked
  modify fun s => { s with asked := true }
  let ended ← attempt act
  modify fun s => { s with asked := before }
  resume ended

def checkFailure : Run Unit := do
  let s ← get
  if s.stopOnFailure && !s.asked && s.status ≠ 0 then throw (.exited s.status)
  else pure ()

/-- Runs the first arm with a pattern for the text. -/
def runArms (self : Script → Run Unit) (text : String) : Script → Run Unit
  | .arm patterns body rest => do
    let found ← patterns.anyM fun w => do
      return (Glyph.pattern (← expandPieces self w)).accepts text.toList
    if found then self body else runArms self text rest
  | _ => setStatus 0

end Shell
end Host
end Concord
