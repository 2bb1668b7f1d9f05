import Concord.Backend

/-!
# Workers

Several workers share a list of jobs. A worker repeats four atomic steps: it
looks whether the run was aborted, claims the next index, runs the job with that
index, and, should the job stop with a fault, aborts the run. A schedule says
which worker takes the next step.
-/

namespace Concord
namespace Workers

/-- Where a worker stands; `done` holds the results it has so far, the latest
first. -/
inductive Stage (α : Type) where
  /-- About to look whether the run was aborted. -/
  | ready (done : List (Nat × α))
  /-- About to claim an index. -/
  | claiming (done : List (Nat × α))
  /-- About to run the job it claimed. -/
  | running (index : Nat) (done : List (Nat × α))
  /-- About to abort the run because of a fault. -/
  | aborting (f : Fault)
  /-- Finished, with its results or the fault that ended it. -/
  | finished (output : Except Fault (List (Nat × α)))

/-- The workers and what they share. -/
structure Pool (σ α : Type) where
  /-- The next index to claim. -/
  cursor : Nat := 0
  aborted : Bool := false
  state : σ
  stages : List (Stage α)

variable {σ α : Type}

/-- A pool of workers before their first step. -/
def Pool.start (workers : Nat) (state : σ) : Pool σ α :=
  { state := state, stages := List.replicate workers (.ready []) }

/-- The pool after a worker moved to another stage. -/
def Pool.move (p : Pool σ α) (worker : Nat) (stage : Stage α) : Pool σ α :=
  { p with stages := p.stages.set worker stage }

/-- Runs a claimed job; past the last job the worker is finished. -/
def runJob (jobs : List (Execution σ α)) (p : Pool σ α) (worker index : Nat)
    (done : List (Nat × α)) : Pool σ α :=
  match jobs[index]? with
  | none => p.move worker (.finished (.ok done.reverse))
  | some job =>
    let (result, state) := job.runOn p.state
    let p := { p with state := state }
    match result with
    | .ok a => p.move worker (.ready ((index, a) :: done))
    | .error (.fault f) => p.move worker (.aborting f)
    | .error .panicked => p.move worker (.finished (.error .workerPanicked))

/-- The next atomic step of a worker. A finished worker stays as it is. -/
def step (jobs : List (Execution σ α)) (worker : Nat) (p : Pool σ α) :
    Pool σ α :=
  match p.stages[worker]? with
  | none => p
  | some (.ready done) =>
    if p.aborted then p.move worker (.finished (.ok done.reverse))
    else p.move worker (.claiming done)
  | some (.claiming done) =>
    { p with cursor := p.cursor + 1 }.move worker (.running p.cursor done)
  | some (.running index done) => runJob jobs p worker index done
  | some (.aborting f) =>
    { p with aborted := true }.move worker (.finished (.error f))
  | some (.finished _) => p

/-- The steps of a schedule, one after another. -/
def runSchedule (jobs : List (Execution σ α)) (schedule : List Nat)
    (p : Pool σ α) : Pool σ α :=
  schedule.foldl (fun p worker => step jobs worker p) p

/-- The output of a stage; a worker that has not finished counts as panicked. -/
def Stage.output : Stage α → Except Fault (List (Nat × α))
  | .finished output => output
  | _ => .error .workerPanicked

/-- All results in the order of their jobs, or the fault of the first worker
that has one. -/
def Pool.collect (p : Pool σ α) : Except Fault (List α) := do
  let outputs ← p.stages.mapM Stage.output
  return (outputs.flatten.mergeSort fun a b => a.1 ≤ b.1).map Prod.snd

/-- The schedule on which the workers take turns. A worker takes at most three
steps for each job and three more. -/
def takeTurns (workers jobs : Nat) : List Nat :=
  (List.replicate (3 * jobs + 4) (List.range workers)).flatten

/-- A scheduler chooses the schedule for a number of workers and of jobs. Like a
backend it acts on the state. -/
abbrev Scheduler (σ : Type) := (workers jobs : Nat) → StateM σ (List Nat)

/-- The scheduler that lets the workers take turns. -/
def Scheduler.turns : Scheduler σ :=
  fun workers jobs => pure (takeTurns workers jobs)

/-- Runs the jobs on a number of workers along a schedule. -/
def run (schedule : List Nat) (workers : Nat) (jobs : List (Execution σ α)) :
    Execution σ (List α) := do
  let p := runSchedule jobs schedule (Pool.start workers (← get))
  set p.state
  Execution.ofExcept (fun f => f) p.collect

end Workers
end Concord
