import Concord.Run.Case
import Concord.Run.Workers

/-!
# Running suites

The selected cases of a suite run one after another, or on several workers;
either way their results come in the order of the cases. A run first probes
every sample of the matrix.
-/

namespace Concord

/-- What a run needs besides the suites. -/
structure RunPlan (σ : Type) where
  matrix : TypeMatrix
  builder : SnippetBuilder
  backends : BackendPair σ
  /-- The greatest number of cases that run at a time. -/
  jobs : Nat := 1
  /-- In which order the workers take their steps. -/
  scheduler : Workers.Scheduler σ := Workers.Scheduler.turns

namespace RunPlan

variable {σ : Type}

/-- Runs the cases of a suite that a filter admits. -/
def runSuite (plan : RunPlan σ) (suite : Suite) (filter : Option String) :
    Execution σ (List CaseResult) :=
  let cases := suite.selectedCases plan.matrix filter
  let run (c : Case) := c.run plan.matrix plan.builder plan.backends
  let workers := min plan.jobs cases.length
  if plan.jobs ≤ 1 || cases.length ≤ 1 then cases.mapM run
  else do
    let schedule ← plan.scheduler workers cases.length
    Workers.run schedule workers (cases.map run)

/-- Probes every sample of the matrix. -/
def preflight (plan : RunPlan σ) : Execution σ Nat :=
  Execution.ofExcept Fault.snippet (plan.builder.probe plan.matrix)

/-- Runs several suites. -/
def runSuites (plan : RunPlan σ) (suites : List Suite)
    (filter : Option String) : Execution σ (List CaseResult) := do
  let results ← suites.mapM fun suite => plan.runSuite suite filter
  return results.flatten

/-- Probes the matrix and then runs several suites. -/
def run (plan : RunPlan σ) (suites : List Suite) (filter : Option String) :
    Execution σ (List CaseResult) := do
  discard plan.preflight
  plan.runSuites suites filter

end RunPlan
end Concord
