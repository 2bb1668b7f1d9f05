import Concord.Proofs.Run.Workers
import Mathlib.Data.List.Perm.Subperm

/-!
# Distribution of jobs over workers

Under every schedule each job runs at most once. When a worker aborts the run,
the others run at most the job that they were about to claim or to run. A worker
that gets enough turns finishes.
-/

namespace Concord
namespace Workers

variable {σ α : Type} {jobs : List (Execution σ α)}
  {before after : List (Stage α)}
  {moved : List (JobRun α)} {p q : Pool σ α}

/-! ## The worker that moves and the others -/

theorem getElem?_append_cons_ne {xs ys : List α} {x y : α} {i : Nat}
    (h : i ≠ xs.length) : (xs ++ x :: ys)[i]? = (xs ++ y :: ys)[i]? := by
  have hset : xs ++ y :: ys = (xs ++ x :: ys).set xs.length y := by simp
  rw [hset, List.getElem?_set_ne h.symm]

namespace Turn

theorem stages_ne (h : Turn jobs before after p moved q) {worker : Nat}
    (hworker : worker ≠ before.length) :
    q.stages[worker]? = p.stages[worker]? := by
  cases h <;> exact getElem?_append_cons_ne hworker

theorem length_stages (h : Turn jobs before after p moved q) :
    q.stages.length = p.stages.length := by
  cases h <;> simp

theorem worker_eq (h : Turn jobs before after p moved q) {r : JobRun α}
    (hr : r ∈ moved) : r.worker = before.length := by
  cases h <;> simp_all

theorem aborted_mono (h : Turn jobs before after p moved q)
    (hp : p.aborted = true) : q.aborted = true := by
  cases h <;> simp_all

end Turn

theorem length_stages_runSchedule (schedule : List Nat) (p : Pool σ α) :
    (runSchedule jobs schedule p).stages.length = p.stages.length :=
  runSchedule_induction (P := fun _ q => q.stages.length = p.stages.length)
    (fun hturn hq => hturn.length_stages.trans hq) schedule [] rfl

theorem length_stages_of_start (jobs : List (Execution σ α))
    (schedule : List Nat) (workers : Nat) (s : σ) :
    (runSchedule jobs schedule (Pool.start workers s)).stages.length =
      workers := by
  simp [length_stages_runSchedule, Pool.start]

theorem stages_ne_nil_of_start {workers : Nat} (h : 0 < workers)
    (jobs : List (Execution σ α)) (schedule : List Nat) (s : σ) :
    (runSchedule jobs schedule (Pool.start workers s)).stages ≠ [] := by
  apply List.ne_nil_of_length_pos
  rwa [length_stages_of_start]

/-! ## After an abort -/

/-- The number of jobs that a worker may still run after the run was aborted. -/
def Stage.allowance : Stage α → Nat
  | .claiming _ | .running _ _ => 1
  | _ => 0

/-- The number of jobs that one of the workers may still run after an abort. -/
def Pool.allowance (p : Pool σ α) (worker : Nat) : Nat :=
  p.stages[worker]?.elim 0 Stage.allowance

theorem Turn.countP_add_allowance_le (h : Turn jobs before after p moved q)
    (hp : p.aborted = true) (worker : Nat) :
    moved.countP (·.worker = worker) + q.allowance worker ≤
      p.allowance worker := by
  by_cases hworker : worker = before.length
  · subst hworker
    cases h <;> simp_all [Pool.allowance, Stage.allowance]
  · have hnone : moved.countP (·.worker = worker) = 0 := by
      rw [List.countP_eq_zero]
      intro r hr
      simpa [h.worker_eq hr] using Ne.symm hworker
    rw [hnone, Pool.allowance, h.stages_ne hworker]
    simp [Pool.allowance]

theorem countP_runs_le_allowance (jobs : List (Execution σ α))
    (schedule : List Nat) (hp : p.aborted = true) (worker : Nat) :
    (runs jobs schedule p).countP (·.worker = worker) ≤ p.allowance worker := by
  induction schedule generalizing p with
  | nil => simp [runs]
  | cons w schedule ih =>
      rw [runs, List.countP_append]
      rcases step_cases jobs w p with
        ⟨hstep, hrun, -⟩ | ⟨before, after, -, hturn⟩
      · rw [hstep, hrun]
        simpa using ih hp
      · have hlater := ih (hturn.aborted_mono hp)
        have hnow := hturn.countP_add_allowance_le hp worker
        omega

theorem allowance_le (p : Pool σ α) (worker : Nat) :
    p.allowance worker ≤ 1 := by
  rw [Pool.allowance]
  cases p.stages[worker]? with
  | none => exact Nat.zero_le 1
  | some stage => cases stage <;> simp [Stage.allowance]

/-- Where every worker but one runs at most one job, and that one none, there
are fewer jobs than workers. -/
theorem length_le_of_countP_le {later : List (JobRun α)} {workers worker : Nat}
    (hworker : worker < workers)
    (h : ∀ w, later.countP (·.worker = w) ≤
      if w = worker ∨ workers ≤ w then 0 else 1) :
    later.length ≤ workers - 1 := by
  have hcount : ∀ w, (later.map JobRun.worker).count w =
      later.countP (·.worker = w) := by
    intro w
    rw [List.count_eq_countP, List.countP_map]
    rfl
  have hnodup : (later.map JobRun.worker).Nodup := by
    rw [List.nodup_iff_count_le_one]
    intro w
    rw [hcount]
    exact (h w).trans (by split_ifs <;> simp)
  have hothers :
      later.map JobRun.worker ⊆ (List.range workers).erase worker := by
    intro w hw
    have hpos := List.count_pos_iff.mpr hw
    have hle := h w
    rw [hcount] at hpos
    split_ifs at hle with hout
    · omega
    · rw [not_or, not_le] at hout
      exact (List.mem_erase_of_ne hout.1).mpr (List.mem_range.mpr hout.2)
  calc
    later.length = (later.map JobRun.worker).length := (List.length_map _).symm
    _ ≤ ((List.range workers).erase worker).length :=
      (List.subperm_of_subset hnodup hothers).length_le
    _ = workers - 1 := by
      rw [List.length_erase_of_mem (List.mem_range.mpr hworker),
        List.length_range]

/-- After the step in which a worker aborts the run it runs nothing, and every
other worker at most one job. -/
theorem countP_runs_after_abort (jobs : List (Execution σ α)) {worker : Nat}
    {f : Fault} (hstage : p.stages[worker]? = some (.aborting f))
    (schedule : List Nat) (w : Nat) :
    (runs jobs schedule (step jobs worker p)).countP (·.worker = w) ≤
      if w = worker ∨ p.stages.length ≤ w then 0 else 1 := by
  have hstep : step jobs worker p =
      { p with
        aborted := true,
        stages := p.stages.set worker (.finished (.error f)) } := by
    simp [step, hstage, Pool.move]
  have habort : (step jobs worker p).aborted = true := by rw [hstep]
  refine (countP_runs_le_allowance jobs schedule habort w).trans ?_
  split_ifs with hout
  · have hnone : (step jobs worker p).allowance w = 0 := by
      rcases hout with rfl | hout
      · have hlt := (List.getElem?_eq_some_iff.mp hstage).1
        simp [hstep, Pool.allowance, Stage.allowance, hlt]
      · have hout : (p.stages.set worker (.finished (.error f)))[w]? =
            none := by simpa using hout
        simp [hstep, Pool.allowance, hout]
    exact hnone.le
  · exact allowance_le _ w

/-! ## Every worker comes to its end -/

/-- All workers are finished. -/
def Pool.Finished (p : Pool σ α) : Prop :=
  ∀ stage ∈ p.stages, ∃ output, stage = .finished output

/-- A bound on the steps that a worker takes to its end. -/
def Stage.remaining (jobs cursor : Nat) : Stage α → Nat
  | .ready _ => 3 * (jobs - cursor) + 3
  | .claiming _ => 3 * (jobs - cursor) + 2
  | .running index _ => 3 * (jobs - index) + 1
  | .aborting _ => 1
  | .finished _ => 0

/-- A bound on the steps that one of the workers takes to its end. -/
def Pool.remaining (jobs : Nat) (p : Pool σ α) (worker : Nat) : Nat :=
  p.stages[worker]?.elim 0 (Stage.remaining jobs p.cursor)

theorem Stage.remaining_mono {n c c' : Nat} (h : c ≤ c') (stage : Stage α) :
    stage.remaining n c' ≤ stage.remaining n c := by
  cases stage <;> simp only [Stage.remaining] <;> omega

theorem Turn.remaining_lt (h : Turn jobs before after p moved q)
    (hp : p.ClaimsBelow) :
    q.remaining jobs.length before.length <
      p.remaining jobs.length before.length := by
  cases h
  case succeed c b s t i done job a hjob hrun =>
    -- the worker goes back to the start of its loop, past the index that it ran
    have hi : i < jobs.length := (List.getElem?_eq_some_iff.mp hjob).1
    have hc : i < c :=
      hp (.running i done) (by simp) i (by simp [Stage.claimed])
    simp [Pool.remaining, Stage.remaining]
    omega
  case fail c b s t i done job f hjob hrun =>
    have hi : i < jobs.length := (List.getElem?_eq_some_iff.mp hjob).1
    simpa [Pool.remaining, Stage.remaining] using Nat.sub_pos_of_lt hi
  all_goals simp [Pool.remaining, Stage.remaining]

theorem claimsBelow_step (jobs : List (Execution σ α)) (worker : Nat)
    (hp : p.ClaimsBelow) : (step jobs worker p).ClaimsBelow := by
  rcases step_cases jobs worker p with ⟨hstep, -, -⟩ | ⟨before, after, -, hturn⟩
  · rwa [hstep]
  · exact hturn.claimsBelow hp

theorem remaining_step_le (jobs : List (Execution σ α)) (worker w : Nat)
    (hp : p.ClaimsBelow) :
    (step jobs worker p).remaining jobs.length w ≤
      p.remaining jobs.length w - if worker = w then 1 else 0 := by
  rcases step_cases jobs worker p with
    ⟨hstep, -, hidle⟩ | ⟨before, after, rfl, hturn⟩
  · have hzero : worker = w → p.remaining jobs.length w = 0 := by
      rintro rfl
      rw [Pool.remaining]
      cases hstage : p.stages[worker]? with
      | none => rfl
      | some stage =>
          obtain ⟨output, rfl⟩ := hidle stage hstage
          rfl
    rw [hstep]
    split_ifs with hw
    · rw [hzero hw]
    · exact le_rfl
  · split_ifs with hw
    · subst hw
      exact Nat.le_sub_one_of_lt (hturn.remaining_lt hp)
    · rw [Pool.remaining, hturn.stages_ne (Ne.symm hw), Nat.sub_zero,
        Pool.remaining]
      cases p.stages[w]? with
      | none => exact le_rfl
      | some stage => exact stage.remaining_mono hturn.cursor_le

/-- Each turn that a worker gets brings it nearer to its end. -/
theorem remaining_runSchedule_le (jobs : List (Execution σ α))
    (schedule : List Nat) (w : Nat) (hp : p.ClaimsBelow) :
    (runSchedule jobs schedule p).remaining jobs.length w ≤
      p.remaining jobs.length w - schedule.count w := by
  induction schedule generalizing p with
  | nil => exact le_rfl
  | cons worker schedule ih =>
      have hnow := remaining_step_le jobs worker w hp
      have hlater := ih (claimsBelow_step jobs worker hp)
      refine hlater.trans ?_
      rw [List.count_cons]
      simp only [beq_iff_eq]
      omega

theorem Stage.exists_finished_of_remaining {n c : Nat} {stage : Stage α}
    (h : stage.remaining n c = 0) : ∃ output, stage = .finished output := by
  cases stage with
  | finished output => exact ⟨output, rfl⟩
  | _ => simp [Stage.remaining] at h

/-- Workers that get three turns for each job and three more are finished. -/
theorem finished_of_count {workers : Nat} {schedule : List Nat}
    (h : ∀ w < workers, 3 * jobs.length + 3 ≤ schedule.count w) (s : σ) :
    (runSchedule jobs schedule (Pool.start workers s)).Finished := by
  intro stage hstage
  obtain ⟨w, hget⟩ := List.getElem?_of_mem hstage
  have hw : w < workers := by
    have hlt := (List.getElem?_eq_some_iff.mp hget).1
    rwa [length_stages_of_start] at hlt
  have hstart : (Pool.start workers s : Pool σ α).remaining jobs.length w =
      3 * jobs.length + 3 := by
    simp [Pool.remaining, Pool.start, Stage.remaining, hw]
  have hzero : (runSchedule jobs schedule (Pool.start workers s)).remaining
      jobs.length w = 0 := by
    have hle := remaining_runSchedule_le jobs schedule w
      (accounts_start jobs workers s).claimsBelow
    have hturns := h w hw
    omega
  rw [Pool.remaining, hget] at hzero
  exact Stage.exists_finished_of_remaining hzero

theorem count_takeTurns {workers w : Nat} (hw : w < workers) (n : Nat) :
    (takeTurns workers n).count w = 3 * n + 4 := by
  have hone : (List.range workers).count w = 1 :=
    List.count_eq_one_of_mem List.nodup_range (List.mem_range.mpr hw)
  simp [takeTurns, List.count_flatten, hone]

/-! ## All workers together -/

theorem runOn_run (schedule : List Nat) (workers : Nat)
    (jobs : List (Execution σ α)) (s : σ) :
    (run schedule workers jobs).runOn s =
      ((runSchedule jobs schedule (Pool.start workers s)).collect.mapError
        .fault,
        (runSchedule jobs schedule (Pool.start workers s)).state) := by
  have hget : (get : Execution σ σ).runOn s = (.ok s, s) := rfl
  have hset : ∀ t : σ, (set t : Execution σ PUnit).runOn s = (.ok ⟨⟩, t) :=
    fun _ => rfl
  simp only [run, Execution.runOn_bind, hget, hset, Execution.runOn_ofExcept]

theorem runs_append (jobs : List (Execution σ α)) (first rest : List Nat)
    (p : Pool σ α) :
    runs jobs (first ++ rest) p =
      runs jobs first p ++ runs jobs rest (runSchedule jobs first p) := by
  induction first generalizing p with
  | nil => rfl
  | cons worker first ih =>
      rw [List.cons_append, runs, ih, runs, List.append_assoc]
      rfl

/-- The jobs that run after a worker aborted the run. -/
theorem exists_runs_after_abort (jobs : List (Execution σ α))
    {workers worker : Nat} {first : List Nat} {s : σ} {f : Fault}
    (hstage : (runSchedule jobs first (Pool.start workers s)).stages[worker]? =
      some (.aborting f))
    (rest : List Nat) :
    ∃ later, runs jobs (first ++ worker :: rest) (Pool.start workers s) =
        runs jobs first (Pool.start workers s) ++ later ∧
      (∀ w, later.countP (·.worker = w) ≤ if w = worker then 0 else 1) ∧
      later.length ≤ workers - 1 := by
  have hlength := length_stages_of_start jobs first workers s
  have hcount := countP_runs_after_abort jobs hstage rest
  have hworker := (List.getElem?_eq_some_iff.mp hstage).1
  have hnone : nextRun jobs worker
      (runSchedule jobs first (Pool.start workers s)) = [] := by
    simp [nextRun, hstage]
  rw [hlength] at hworker
  simp only [hlength] at hcount
  refine ⟨_, ?_, fun w => (hcount w).trans ?_,
    length_le_of_countP_le hworker hcount⟩
  · rw [runs_append, runs, hnone, List.nil_append]
  · by_cases hw : w = worker
    · simp [hw]
    · simp only [hw, false_or, if_false]
      split_ifs <;> simp

/-- Whatever the jobs do, and whichever worker takes the next step: every job
runs at most once; where there are results, every job ran once and gave its
result; where a job stops, there is a fault; and once a worker aborted the run,
every other worker runs at most one more job. -/
theorem distribution_under_every_schedule (jobs : List (Execution σ α))
    (workers : Nat) (hworkers : jobs ≠ [] → 0 < workers) (schedule : List Nat)
    (s : σ) :
    let ran := runs jobs schedule (Pool.start workers s)
    let outcome := ((run schedule workers jobs).runOn s).1
    (ran.map JobRun.index).Nodup ∧
    (∀ xs, outcome = .ok xs → xs.length = jobs.length ∧
      (ran.map JobRun.entry).Perm ((List.range jobs.length).zip (xs.map .ok))) ∧
    (∀ r ∈ ran, ∀ stop, r.outcome = .error stop →
      ∃ f, outcome = .error (.fault f)) ∧
    (∀ first worker rest f, schedule = first ++ worker :: rest →
      (runSchedule jobs first (Pool.start workers s)).stages[worker]? =
        some (.aborting f) →
      ∃ later, ran = runs jobs first (Pool.start workers s) ++ later ∧
        (∀ w, later.countP (·.worker = w) ≤ if w = worker then 0 else 1) ∧
        later.length ≤ workers - 1) := by
  have haccounts := accounts_runs jobs workers schedule s
  intro ran outcome
  have houtcome : outcome =
      (runSchedule jobs schedule (Pool.start workers s)).collect.mapError
        .fault :=
    congrArg Prod.fst (runOn_run schedule workers jobs s)
  refine ⟨haccounts.nodup_index, ?_, ?_, ?_⟩
  · intro xs hxs
    refine haccounts.perm_of_collect_eq_ok
      (mapError_eq_ok_iff.mp (houtcome.symm.trans hxs)) ?_
    intro hjobs
    exact stages_ne_nil_of_start (hworkers hjobs) jobs schedule s
  · intro r hr stop hstop
    have hfailed := haccounts.failed_of_error hr hstop
    cases hcollect :
      (runSchedule jobs schedule (Pool.start workers s)).collect with
    | ok xs => exact absurd hfailed (not_failed_of_collect_eq_ok hcollect)
    | error f =>
        exact ⟨f,
          houtcome.trans (congrArg (Except.mapError Stop.fault) hcollect)⟩
  · intro first worker rest f hschedule hstage
    subst hschedule
    exact exists_runs_after_abort jobs hstage rest

/-- Three jobs that share a counter, of which the second stops with a fault. -/
def jobsWithFault : List (Execution Nat Nat) :=
  [getModify (· + 1), throw (.fault (.scratch "target" "disk full")),
    getModify (· + 1)]

/-- The worker of the second job aborts the run while the other worker is about
to run the first one. That job still runs; the third one does not. -/
theorem distribution_of_jobsWithFault :
    (jobsWithFault ≠ [] → 0 < 2) ∧
    (runs jobsWithFault [0, 0, 1, 1, 1, 1, 0, 0] (Pool.start 2 7)).map
      JobRun.index = [1, 0] ∧
    (∃ f, ((run [0, 0, 1, 1, 1, 1, 0, 0] 2 jobsWithFault).runOn 7).1 =
      .error (.fault f)) ∧
    ∃ later, runs jobsWithFault [0, 0, 1, 1, 1, 1, 0, 0] (Pool.start 2 7) =
        runs jobsWithFault [0, 0, 1, 1, 1] (Pool.start 2 7) ++ later ∧
      (∀ w, later.countP (·.worker = w) ≤ if w = 1 then 0 else 1) ∧
      later.length ≤ 1 := by
  have hworkers : jobsWithFault ≠ [] → 0 < 2 := fun _ => Nat.two_pos
  have hran : runs jobsWithFault [0, 0, 1, 1, 1, 1, 0, 0] (Pool.start 2 7) =
      [⟨1, 1, .error (.fault (.scratch "target" "disk full"))⟩,
        ⟨0, 0, .ok 7⟩] := rfl
  have hstage :
      (runSchedule jobsWithFault [0, 0, 1, 1, 1] (Pool.start 2 7)).stages[1]? =
      some (.aborting (.scratch "target" "disk full")) := rfl
  obtain ⟨-, -, hfault, habort⟩ :=
    distribution_under_every_schedule jobsWithFault 2 hworkers
    [0, 0, 1, 1, 1, 1, 0, 0] 7
  refine ⟨hworkers, congrArg (List.map JobRun.index) hran, ?_, ?_⟩
  · refine hfault
      ⟨1, 1, .error (.fault (.scratch "target" "disk full"))⟩ ?_ _ rfl
    rw [hran]
    exact List.mem_cons_self
  · exact habort [0, 0, 1, 1, 1] 1 [0, 0] _ rfl hstage

end Workers
end Concord
