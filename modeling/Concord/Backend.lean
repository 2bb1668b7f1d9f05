import Concord.Outcome
import Concord.Snippet

/-!
# Backends

A backend executes source text and leaves a transcript. Executions act on a
state, which is whatever the backends depend on and change, and may stop the
run: by a fault of the run itself, or because the worker that runs them panics.
-/

namespace Concord

/-- A fault of the run itself; misbehaviour of a backend is an outcome and no
fault. -/
inductive Fault where
  | unknownType (typeName : String)
  | spawn (backend reason : String)
  | wait (backend reason : String)
  | scratch (backend reason : String)
  | snippet (e : SnippetError)
  | workerPanicked
  deriving DecidableEq

namespace Fault

def message : Fault → String
  | .unknownType typeName =>
    "type '" ++ typeName ++ "' is not in the type matrix"
  | .spawn backend reason =>
    "failed to spawn backend '" ++ backend ++ "': " ++ reason
  | .wait backend reason =>
    "failed waiting on backend '" ++ backend ++ "': " ++ reason
  | .scratch backend reason =>
    "scratch space for backend '" ++ backend ++ "' failed: " ++ reason
  | .snippet e => e.message
  | .workerPanicked => "case worker panicked"

end Fault

/-- Why a computation stopped early. -/
inductive Stop where
  | fault (f : Fault)
  | panicked
  deriving DecidableEq

/-- A computation on a state that may stop early; the state is kept in both
cases. -/
abbrev Execution (σ : Type) := ExceptT Stop (StateM σ)

namespace Execution

/-- The outcome of a computation and the state after it. -/
def runOn {σ α : Type} (x : Execution σ α) (s : σ) : Except Stop α × σ :=
  StateT.run (ExceptT.run x) s

/-- Stops with a fault unless there is a result. -/
def ofExcept {σ α ε : Type} (toFault : ε → Fault) : Except ε α → Execution σ α
  | .ok a => pure a
  | .error e => throw (.fault (toFault e))

end Execution

/-- A way of executing source text within a time limit. -/
structure Backend (σ : Type) where
  name : String
  execute : (source : String) → (timeoutMs : Nat) → Execution σ Transcript

/-- The time limit where none is given. -/
def defaultTimeoutMs : Nat := 10000

/-- The reference and the target, with the conditions under which they run. -/
structure BackendPair (σ : Type) where
  reference : Backend σ
  target : Backend σ
  timeoutMs : Nat := defaultTimeoutMs
  /-- An execution that times out is tried once more. -/
  retryTimeouts : Bool := true

namespace BackendPair

variable {σ : Type}

def outcomeOn (p : BackendPair σ) (b : Backend σ) (source : String) :
    Execution σ Outcome := do
  let first := Outcome.ofTranscript (← b.execute source p.timeoutMs)
  if p.retryTimeouts && first.isTimeout then
    return Outcome.ofTranscript (← b.execute source p.timeoutMs)
  else return first

/-- The outcomes of a source on the reference and then on the target. -/
def outcomes (p : BackendPair σ) (source : String) :
    Execution σ (Outcome × Outcome) := do
  let reference ← p.outcomeOn p.reference source
  let target ← p.outcomeOn p.target source
  return (reference, target)

end BackendPair
end Concord
