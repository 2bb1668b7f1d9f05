import Concord.Backend
import Concord.Case.Basic

/-!
# Running a case

A case runs its function on every combination of samples of its types, compares
the outcomes of the two backends, and resolves the worst verdict against the
expectations of its suite.
-/

namespace Concord

/-- The outcomes of one call on both backends. -/
structure SampleResult where
  call : String
  verdict : Verdict
  reference : Outcome
  target : Outcome
  deriving DecidableEq

/-- The result of a case. -/
structure CaseResult where
  suite : String
  function : String
  name : String
  id : String
  types : List String
  expectedFailure : Bool
  verdict : Verdict
  outcome : CaseOutcome
  samples : List SampleResult
  /-- The measured time; a run that is not timed takes none. -/
  durationMs : Nat := 0
  deriving DecidableEq

/-- The samples on which the backends do not agree. -/
def CaseResult.disagreements (r : CaseResult) : List SampleResult :=
  r.samples.filter fun s => !s.verdict.isAgreement

/-- All ways to choose one item from each pool, the first pool varying
slowest. -/
def combinations {α : Type} : List (List α) → List (List α)
  | [] => [[]]
  | pool :: rest => pool.flatMap fun a => (combinations rest).map (a :: ·)

/-- The samples of a type; a type that was not declared is a fault. -/
def TypeMatrix.samplesFor (m : TypeMatrix) (typeName : String) :
    Except Fault (List Sample) :=
  match m.samples? typeName with
  | some samples => .ok samples
  | none => .error (.unknownType typeName)

namespace Case

variable {σ : Type}

def pools (c : Case) (m : TypeMatrix) : Except Fault (List (List Sample)) :=
  c.key.types.mapM m.samplesFor

def runSample (c : Case) (b : SnippetBuilder) (p : BackendPair σ)
    (samples : List Sample) : Execution σ SampleResult := do
  let snippet ← Execution.ofExcept Fault.snippet (b.build c.function samples)
  let (reference, target) ← p.outcomes snippet.source
  return { call := snippet.call, verdict := reference.compare target,
           reference := reference, target := target }

/-- The result of a case whose samples have been run. -/
def conclude (c : Case) (samples : List SampleResult) : CaseResult :=
  let verdict := Verdict.worst (samples.map SampleResult.verdict)
  { suite := c.suite.name
    function := c.function
    name := c.name
    id := c.id
    types := c.key.types
    expectedFailure := c.expectedFailure
    verdict := verdict
    outcome := c.suite.registry.resolve c.function c.key.label verdict
    samples := samples }

/-- Runs a case. -/
def run (c : Case) (m : TypeMatrix) (b : SnippetBuilder) (p : BackendPair σ) :
    Execution σ CaseResult := do
  let pools ← Execution.ofExcept (fun f => f) (c.pools m)
  let samples ← (combinations pools).mapM (c.runSample b p)
  return c.conclude samples

end Case
end Concord
