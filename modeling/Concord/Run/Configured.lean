import Concord.Config.Basic
import Concord.Report
import Concord.Run.Suite

/-!
# Configured runs

A run as a configuration describes it. How its commands become backends, and
which sources pass the check of the builder, is left open.
-/

namespace Concord

/-- Why a run gives no report. -/
inductive RunFailure where
  | setup (e : SetupError)
  | stopped (s : Stop)
  deriving DecidableEq

namespace Config

variable {σ : Type}

/-- The plan of a configured run; `start` makes backends of commands. -/
def plan (c : Config) (b : SnippetBuilder) (m : TypeMatrix)
    (start : CommandBackend → Backend σ) : Except SetupError (RunPlan σ) := do
  let (reference, target) ← c.backends
  .ok
    { matrix := m
      builder := b
      backends :=
        { reference := start reference
          target := start target
          timeoutMs := c.timeoutMs
          retryTimeouts := c.retryTimeouts }
      jobs := c.jobs }

/-- Runs suites and gives the report and the state afterwards. -/
def runScheduled (c : Config) (scheduler : Workers.Scheduler σ)
    (b : SnippetBuilder) (m : TypeMatrix) (start : CommandBackend → Backend σ)
    (suites : List Suite) (filter : Option String) (s : σ) :
    Except RunFailure Report × σ :=
  match c.plan b m start with
  | .error e => (.error (.setup e), s)
  | .ok plan =>
    match ({ plan with scheduler := scheduler }.run suites filter).runOn s with
    | (.error stop, s) => (.error (.stopped stop), s)
    | (.ok cases, s) =>
      (.ok ⟨plan.backends.reference.name, plan.backends.target.name, cases⟩, s)

/-- Runs suites on workers that take turns. -/
def run (c : Config) (b : SnippetBuilder) (m : TypeMatrix)
    (start : CommandBackend → Backend σ) (suites : List Suite)
    (filter : Option String) (s : σ) : Except RunFailure Report × σ :=
  c.runScheduled Workers.Scheduler.turns b m start suites filter s

end Config
end Concord
