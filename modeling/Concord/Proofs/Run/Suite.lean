import Concord.Proofs.Run.Distribution
import Concord.Run.Suite

/-!
# Running a suite on workers

Where the outcome of a case does not depend on the state, a suite has the same
results under every schedule as one case after another; and where some case
stops, the suite stops with the fault of such a case.
-/

namespace Concord

variable {σ α β : Type}

/-! ## Gathering outcomes -/

/-- The results of all items in order, or how one of the items stopped. -/
def Gathers (outcomes : List (Except Stop α)) : Except Stop (List α) → Prop
  | .ok results => outcomes = results.map .ok
  | .error stop => .error stop ∈ outcomes

theorem gathers_mapM (f : α → Except Stop β) (as : List α) :
    Gathers (as.map f) (as.mapM f) := by
  cases h : as.mapM f with
  | ok results => exact mapM_eq_ok_iff.mp h
  | error stop => exact List.mem_map.mpr (exists_of_mapM_eq_error h)

namespace Gathers

variable {outcomes : List (Except Stop α)}
  {gathered gathered' : Except Stop (List α)}

theorem exists_ok_iff (h : Gathers outcomes gathered) :
    (∃ results, gathered = .ok results) ↔
      ∀ outcome ∈ outcomes, ∃ a, outcome = .ok a := by
  constructor
  · rintro ⟨results, rfl⟩
    rw [show outcomes = results.map .ok from h]
    simp
  · intro hall
    cases gathered with
    | ok results => exact ⟨results, rfl⟩
    | error stop =>
        obtain ⟨a, ha⟩ := hall _ h
        exact nomatch ha

theorem eq_ok (h : Gathers outcomes gathered) (h' : Gathers outcomes gathered')
    {results : List α} (hok : gathered = .ok results) :
    gathered' = .ok results := by
  obtain ⟨results', rfl⟩ :=
    h'.exists_ok_iff.mpr (h.exists_ok_iff.mp ⟨results, hok⟩)
  subst hok
  have hmap : results.map Except.ok = results'.map Except.ok :=
    (show outcomes = results.map .ok from h).symm.trans h'
  rw [List.map_injective_iff.mpr (fun _ _ => Except.ok.inj) hmap]

end Gathers

/-! ## Jobs whose outcome does not depend on the state -/

theorem Execution.Determined.runOn_eq {x : Execution σ α} (h : x.Determined)
    (s t : σ) : (x.runOn s).1 = (x.runOn t).1 := by
  obtain ⟨r, hr⟩ := h
  rw [hr s, hr t]

theorem Execution.Determined.ne_panicked {x : Execution σ α} (h : x.Determined)
    (s : σ) : (x.runOn s).1 ≠ .error .panicked := by
  obtain ⟨r, hr⟩ := h
  rw [hr s]
  cases r <;> simp [Except.mapError]

namespace Workers

variable {jobs : List (Execution σ α)} {schedule : List Nat} {workers : Nat}

/-- A job that ran is one of the jobs, run on some state. -/
theorem exists_of_mem_runs {p : Pool σ α} {r : JobRun α}
    (hr : r ∈ runs jobs schedule p) :
    ∃ job s, jobs[r.index]? = some job ∧ r.outcome = (job.runOn s).1 := by
  suffices h : ∀ r ∈ [] ++ runs jobs schedule p,
      ∃ job s, jobs[r.index]? = some job ∧
        r.outcome = (job.runOn s).1 from h r hr
  refine runSchedule_induction (P := fun ran _ => ∀ r ∈ ran,
    ∃ job s, jobs[r.index]? = some job ∧ r.outcome = (job.runOn s).1) ?_
      schedule [] (by simp)
  intro before after ran moved p q hturn hran
  rw [List.forall_mem_append]
  refine ⟨hran, ?_⟩
  cases hturn
  case succeed c b s t i done job a hjob hrun =>
    simpa using ⟨job, hjob, s, by rw [hrun]⟩
  case fail c b s t i done job f hjob hrun =>
    simpa using ⟨job, hjob, s, by rw [hrun]⟩
  case panic c b s t i done job hjob hrun =>
    simpa using ⟨job, hjob, s, by rw [hrun]⟩
  all_goals simp

/-- A worker ends with a fault because one of the jobs stopped. -/
theorem exists_job_of_fault? {s : σ} {stage : Stage α} {f : Fault}
    (hstage : stage ∈ (runSchedule jobs schedule (Pool.start workers s)).stages)
    (hfault : stage.fault? = some f) :
    ∃ job ∈ jobs, ∃ t stop, (job.runOn t).1 = .error stop ∧
      stop.toFault = f := by
  obtain ⟨r, hr, stop, hstop, hf⟩ :=
    (accounts_runs jobs workers schedule s).faults stage hstage f hfault
  obtain ⟨job, t, hjob, houtcome⟩ := exists_of_mem_runs hr
  exact ⟨job, List.mem_of_getElem? hjob, t, stop, houtcome.symm.trans hstop, hf⟩

/-- Where the workers give results, each is what the job gave that stands at its
place. -/
theorem forall₂_of_collect_eq_ok (hworkers : jobs ≠ [] → 0 < workers) {s : σ}
    {results : List α}
    (h : (runSchedule jobs schedule (Pool.start workers s)).collect =
      .ok results) :
    List.Forall₂ (fun job a => ∃ u v, job.runOn u = (.ok a, v)) jobs
      results := by
  obtain ⟨hlength, hperm⟩ :=
    (accounts_runs jobs workers schedule s).perm_of_collect_eq_ok h
    fun hne => stages_ne_nil_of_start (hworkers hne) jobs schedule s
  -- the result at place `i` stands in the trace with the index `i`
  refine List.forall₂_iff_get.mpr ⟨hlength.symm, fun i hi hi' => ?_⟩
  have hmem : (i, (.ok results[i] : Except Stop α)) ∈
      (List.range jobs.length).zip (results.map .ok) := by
    rw [List.mem_iff_getElem]
    exact ⟨i, by simp [hi, hi'], by simp⟩
  obtain ⟨r, hr, hentry⟩ := List.mem_map.mp (hperm.symm.subset hmem)
  obtain ⟨job, u, hjob, houtcome⟩ := exists_of_mem_runs hr
  obtain ⟨rfl, hresult⟩ := Prod.mk.inj hentry
  rw [List.getElem?_eq_getElem hi, Option.some.injEq] at hjob
  refine ⟨u, (job.runOn u).2, Prod.ext ?_ ?_⟩
  · rw [List.get_eq_getElem, hjob, ← houtcome, hresult]
    rfl
  · rw [List.get_eq_getElem, hjob]

section Determined

variable (hjobs : ∀ job ∈ jobs, job.Determined)
include hjobs

theorem map_outcome_of_collect_eq_ok (hworkers : jobs ≠ [] → 0 < workers)
    {s : σ} {results : List α}
    (h : (runSchedule jobs schedule (Pool.start workers s)).collect =
      .ok results)
    (t : σ) : (jobs.map fun job => (job.runOn t).1) = results.map .ok := by
  have hruns := (List.forall₂_and_left jobs results).mpr
    ⟨hjobs, forall₂_of_collect_eq_ok hworkers h⟩
  refine map_eq_map_iff_forall₂.mpr (hruns.imp ?_)
  rintro job a ⟨hdetermined, u, v, hrun⟩
  rw [hdetermined.runOn_eq t u, hrun]

theorem exists_of_collect_eq_error_of_finished {s : σ}
    (hfinished : (runSchedule jobs schedule (Pool.start workers s)).Finished)
    {f : Fault}
    (h : (runSchedule jobs schedule (Pool.start workers s)).collect = .error f)
    (t : σ) : ∃ job ∈ jobs, (job.runOn t).1 = .error (.fault f) := by
  obtain ⟨stage, hstage, houtput⟩ := exists_of_collect_eq_error h
  obtain ⟨output, rfl⟩ := hfinished stage hstage
  have hfault : (Stage.finished output).fault? = some f := by
    rw [show output = .error f from houtput]
    rfl
  obtain ⟨job, hmem, u, stop, hstop, hf⟩ := exists_job_of_fault? hstage hfault
  have hstopped : (job.runOn t).1 = .error stop := by
    rw [(hjobs job hmem).runOn_eq t u, hstop]
  cases stop with
  | panicked => exact absurd hstopped ((hjobs job hmem).ne_panicked t)
  | fault f' =>
      obtain rfl : f' = f := hf
      exact ⟨job, hmem, hstopped⟩

/-- Under every schedule on which all workers finish, they gather the outcomes
of the jobs. -/
theorem gathers_run (hworkers : jobs ≠ [] → 0 < workers) {s : σ}
    (hfinished : (runSchedule jobs schedule (Pool.start workers s)).Finished)
    (t : σ) :
    Gathers (jobs.map fun job => (job.runOn t).1)
      ((run schedule workers jobs).runOn s).1 := by
  rw [runOn_run]
  cases h : (runSchedule jobs schedule (Pool.start workers s)).collect with
  | ok results => exact map_outcome_of_collect_eq_ok hjobs hworkers h t
  | error f =>
      exact List.mem_map.mpr
        (exists_of_collect_eq_error_of_finished hjobs hfinished h t)

end Determined

/-- Every worker gets three turns for each job and three more. -/
def Scheduler.Fair (scheduler : Scheduler σ) : Prop :=
  ∀ workers jobs s, ∀ w < workers,
    3 * jobs + 3 ≤ ((scheduler workers jobs).run s).1.count w

theorem Scheduler.fair_turns : (Scheduler.turns : Scheduler σ).Fair := by
  intro workers jobs s w hw
  have hcount : (takeTurns workers jobs).count w = 3 * jobs + 4 :=
    count_takeTurns hw jobs
  change 3 * jobs + 3 ≤ (takeTurns workers jobs).count w
  omega

/-- The workers take turns, the last one first. -/
def Scheduler.lastFirst : Scheduler σ :=
  fun workers jobs => pure (takeTurns workers jobs).reverse

theorem Scheduler.fair_lastFirst :
    (Scheduler.lastFirst : Scheduler σ).Fair := by
  intro workers jobs s w hw
  change 3 * jobs + 3 ≤ (takeTurns workers jobs).reverse.count w
  rw [List.count_reverse]
  exact Scheduler.fair_turns workers jobs s w hw

end Workers

/-! ## Cases -/

/-- What the backend leaves behind is a function of the source and of the time
limit, and it never panics. -/
def Backend.Functional (b : Backend σ) : Prop :=
  ∀ source timeoutMs, (b.execute source timeoutMs).Determined

/-- What holds of every execution of the backends holds of both outcomes of a
source. -/
theorem Execution.Composed.outcomes {P : ∀ α : Type, Execution σ α → Prop}
    (hP : Composed P) {p : BackendPair σ}
    (hreference : ∀ source timeoutMs,
      P Transcript (p.reference.execute source timeoutMs))
    (htarget : ∀ source timeoutMs,
      P Transcript (p.target.execute source timeoutMs))
    (source : String) : P (Outcome × Outcome) (p.outcomes source) := by
  have houtcome : ∀ b : Backend σ,
      (∀ source timeoutMs, P Transcript (b.execute source timeoutMs)) →
        P Outcome (p.outcomeOn b source) := by
    intro b hb
    refine hP.bind (hb source p.timeoutMs) fun first => ?_
    by_cases hretry :
      (p.retryTimeouts && (Outcome.ofTranscript first).isTimeout) = true
    · simp only [hretry, if_true]
      exact hP.bind (hb source p.timeoutMs) fun second => hP.pure _
    · simp only [hretry]
      exact hP.pure _
  refine hP.bind (houtcome p.reference hreference) fun reference => ?_
  exact hP.bind (houtcome p.target htarget) fun target => hP.pure _

/-- What holds of every execution of the backends holds of running a case. -/
theorem Execution.Closed.run {P : ∀ α : Type, Execution σ α → Prop}
    (hP : Closed P) (c : Case) (m : TypeMatrix) (b : SnippetBuilder)
    {p : BackendPair σ}
    (hreference : ∀ source timeoutMs,
      P Transcript (p.reference.execute source timeoutMs))
    (htarget : ∀ source timeoutMs,
      P Transcript (p.target.execute source timeoutMs)) :
    P CaseResult (c.run m b p) := by
  have hsample : ∀ samples, P SampleResult (c.runSample b p samples) := by
    intro samples
    refine hP.bind (hP.ofExcept _ _) fun snippet => ?_
    refine hP.bind (hP.composed.outcomes hreference htarget snippet.source)
      fun outcomes => ?_
    exact hP.pure _
  refine hP.bind (hP.ofExcept _ _) fun pools => ?_
  exact hP.bind (hP.composed.mapM fun samples _ => hsample samples)
    fun results => hP.pure _

theorem Case.determined_run (c : Case) (m : TypeMatrix) (b : SnippetBuilder)
    {p : BackendPair σ} (hreference : p.reference.Functional)
    (htarget : p.target.Functional) : (c.run m b p).Determined :=
  Execution.closed_determined.run c m b hreference htarget

/-! ## Suites -/

namespace RunPlan

/-- Runs one case as the plan says. -/
def runCase (plan : RunPlan σ) (c : Case) : Execution σ CaseResult :=
  c.run plan.matrix plan.builder plan.backends

/-- All workers finish on the schedule that the scheduler chooses for a suite,
if it runs on workers at all. -/
def Completes (plan : RunPlan σ) (suite : Suite) (filter : Option String)
    (s : σ) : Prop :=
  let cases := suite.selectedCases plan.matrix filter
  let workers := min plan.jobs cases.length
  let chosen := (plan.scheduler workers cases.length).run s
  1 < plan.jobs → 1 < cases.length →
    (Workers.runSchedule (cases.map plan.runCase) chosen.1
      (Workers.Pool.start workers chosen.2)).Finished

variable {plan : RunPlan σ} {suite : Suite} {filter : Option String}

theorem runSuite_of_serial
    (h : plan.jobs ≤ 1 ∨ (suite.selectedCases plan.matrix filter).length ≤ 1) :
    plan.runSuite suite filter =
      (suite.selectedCases plan.matrix filter).mapM plan.runCase := by
  have hcondition : (decide (plan.jobs ≤ 1) ||
      decide ((suite.selectedCases plan.matrix filter).length ≤ 1)) = true := by
        simpa using h
  exact if_pos hcondition

theorem runOn_runSuite_of_parallel (hjobs : 1 < plan.jobs)
    (hcases : 1 < (suite.selectedCases plan.matrix filter).length) (s : σ) :
    let cases := suite.selectedCases plan.matrix filter
    let workers := min plan.jobs cases.length
    let chosen := (plan.scheduler workers cases.length).run s
    (plan.runSuite suite filter).runOn s =
      (Workers.run chosen.1 workers (cases.map plan.runCase)).runOn
        chosen.2 := by
  have hcondition : ¬(decide (plan.jobs ≤ 1) ||
      decide ((suite.selectedCases plan.matrix filter).length ≤ 1)) = true := by
    simp [hjobs, hcases]
  rw [runSuite, if_neg hcondition, Execution.runOn_bind]
  rfl

/-- Whatever the backends do: each result of a suite comes from running the case
at its place. -/
theorem forall₂_of_runOn_runSuite {s t : σ} {results : List CaseResult}
    (h : (plan.runSuite suite filter).runOn s = (.ok results, t)) :
    List.Forall₂ (fun c r => ∃ u v, (plan.runCase c).runOn u = (.ok r, v))
      (suite.selectedCases plan.matrix filter) results := by
  by_cases hserial : plan.jobs ≤ 1 ∨
    (suite.selectedCases plan.matrix filter).length ≤ 1
  · rw [runSuite_of_serial hserial] at h
    exact Execution.forall₂_of_runOn_mapM h
  · rw [not_or, not_le, not_le] at hserial
    obtain ⟨hjobs, hcases⟩ := hserial
    rw [runOn_runSuite_of_parallel hjobs hcases, Workers.runOn_run] at h
    have hcollect := mapError_eq_ok_iff.mp (Prod.mk.inj h).1
    have hruns :=
      Workers.forall₂_of_collect_eq_ok (fun _ =>
        lt_min (by omega) (by omega)) hcollect
    rwa [List.forall₂_map_left_iff] at hruns

theorem gathers_runSuite_of_determined
    (hcase : ∀ c ∈ suite.selectedCases plan.matrix filter,
      (plan.runCase c).Determined)
    {s : σ} (hcompletes : plan.Completes suite filter s) (t : σ) :
    Gathers ((suite.selectedCases plan.matrix filter).map fun c =>
      ((plan.runCase c).runOn t).1)
      ((plan.runSuite suite filter).runOn s).1 := by
  by_cases hserial : plan.jobs ≤ 1 ∨
    (suite.selectedCases plan.matrix filter).length ≤ 1
  · rw [runSuite_of_serial hserial]
    have hyields : ∀ c ∈ suite.selectedCases plan.matrix filter,
        (plan.runCase c).Yields ((plan.runCase c).runOn t).1 :=
      fun c hc u => (hcase c hc).runOn_eq u t
    rw [Execution.Yields.mapM hyields s]
    exact gathers_mapM _ _
  · rw [not_or, not_le, not_le] at hserial
    obtain ⟨hjobs, hcases⟩ := hserial
    rw [runOn_runSuite_of_parallel hjobs hcases]
    have hall :
        ∀ job ∈ (suite.selectedCases plan.matrix filter).map plan.runCase,
        job.Determined := by
      intro job hjob
      obtain ⟨c, hc, rfl⟩ := List.mem_map.mp hjob
      exact hcase c hc
    have hgathers :=
      Workers.gathers_run hall (fun _ => lt_min (by omega) (by omega))
      (hcompletes hjobs hcases) t
    rwa [List.map_map] at hgathers

theorem gathers_runSuite (hreference : plan.backends.reference.Functional)
    (htarget : plan.backends.target.Functional) {s : σ}
    (hcompletes : plan.Completes suite filter s) (t : σ) :
    Gathers ((suite.selectedCases plan.matrix filter).map fun c =>
      ((plan.runCase c).runOn t).1)
      ((plan.runSuite suite filter).runOn s).1 :=
  gathers_runSuite_of_determined (fun c _ =>
    c.determined_run _ _ hreference htarget)
    hcompletes t

/-- Where every selected case has a result that does not depend on the state,
the suite has these results under every schedule on which all workers finish. -/
theorem runSuite_eq_ok_of_yields {results : List CaseResult}
    (hyields : List.Forall₂ (fun c r => (plan.runCase c).Yields (.ok r))
      (suite.selectedCases plan.matrix filter) results)
    {s : σ} (hcompletes : plan.Completes suite filter s) :
    ((plan.runSuite suite filter).runOn s).1 = .ok results := by
  have hcase : ∀ c ∈ suite.selectedCases plan.matrix filter,
      (plan.runCase c).Determined := by
    intro c hc
    obtain ⟨i, hi, rfl⟩ := List.getElem_of_mem hc
    obtain ⟨hlength, hget⟩ := List.forall₂_iff_get.mp hyields
    exact ⟨.ok _, hget i hi (hlength ▸ hi)⟩
  have houtcomes :
      Gathers ((suite.selectedCases plan.matrix filter).map fun c =>
      ((plan.runCase c).runOn s).1) (.ok results) :=
    map_eq_map_iff_forall₂.mpr (hyields.imp fun c r hr => hr s)
  exact houtcomes.eq_ok (gathers_runSuite_of_determined hcase hcompletes s) rfl

theorem completes_of_fair (h : plan.scheduler.Fair) (s : σ) :
    plan.Completes suite filter s := by
  intro hjobs hcases
  refine Workers.finished_of_count (fun w hw => ?_) _
  rw [List.length_map]
  exact h _ _ s w hw

/-- Where the backends are functions of the source and the time limit, every
schedule on which all workers finish gives what the cases give alone: the
results of all selected cases in order, as a run of one case after another, or
the fault of a case. Every fair schedule is one on which all workers finish. -/
theorem runSuite_under_every_schedule (plan : RunPlan σ)
    (hreference : plan.backends.reference.Functional)
    (htarget : plan.backends.target.Functional) (suite : Suite)
    (filter : Option String) (s t : σ) :
    let cases := (suite.cases plan.matrix).filter fun c => admits filter c.id
    let alone (c : Case) :=
      ((c.run plan.matrix plan.builder plan.backends).runOn t).1
    let outcome := ((plan.runSuite suite filter).runOn s).1
    let serial := (({ plan with jobs := 1 }.runSuite suite filter).runOn s).1
    (plan.scheduler.Fair → plan.Completes suite filter s) ∧
    (plan.Completes suite filter s →
      ((∃ results, outcome = .ok results) ↔ ∀ c ∈ cases, ∃ r, alone c = .ok r) ∧
      (∀ results, outcome = .ok results →
        cases.map alone = results.map .ok ∧ serial = .ok results) ∧
      (∀ stop, outcome = .error stop →
        ∃ c ∈ cases, ∃ f, alone c = .error (.fault f) ∧ stop = .fault f)) := by
  intro cases alone outcome serial
  refine ⟨fun hfair => completes_of_fair hfair s, fun hcompletes => ?_⟩
  have hgathers : Gathers (cases.map alone) outcome :=
    gathers_runSuite hreference htarget hcompletes t
  have hserial : Gathers (cases.map alone) serial := by
    have hone : Completes { plan with jobs := 1 } suite filter s :=
      fun hjobs => absurd hjobs (lt_irrefl 1)
    exact @gathers_runSuite σ { plan with jobs := 1 } suite filter hreference
      htarget s hone t
  refine ⟨?_, ?_, ?_⟩
  · rw [hgathers.exists_ok_iff, List.forall_mem_map]
  · intro results hresults
    rw [hresults] at hgathers
    exact ⟨hgathers, hgathers.eq_ok hserial rfl⟩
  · intro stop hstop
    rw [hstop] at hgathers
    obtain ⟨c, hc, halone⟩ := List.mem_map.mp hgathers
    cases stop with
    | fault f => exact ⟨c, hc, f, halone, rfl⟩
    | panicked =>
        exact absurd halone
          ((c.determined_run _ _ hreference htarget).ne_panicked t)

/-- Two types with three samples on two workers; the backends quote the same
text differently. -/
def onTwoWorkers : RunPlan Unit where
  matrix := .ofDeclarations
    [("int", [.ofValue "int" (.int 3), .ofValue "int" (.int (-5))]),
     ("None", [.ofValue "None" .null])]
  builder := .unchecked
  backends :=
    { reference := ⟨"reference",
        fun _ _ => pure (.completed "@@parity:ok str '0b11'\n")⟩
      target := ⟨"target",
        fun _ _ => pure (.completed "@@parity:ok str \"0b11\"\n")⟩ }
  jobs := 2
  scheduler := .lastFirst

/-- The second worker takes the first case, and the results are in order all the
same. -/
theorem runSuite_onTwoWorkers :
    let suite : Suite := { name := "Bin", functions := ["bin"], arity := .one }
    onTwoWorkers.backends.reference.Functional ∧
    onTwoWorkers.backends.target.Functional ∧
    onTwoWorkers.Completes suite none () ∧
    ∃ results, ((onTwoWorkers.runSuite suite none).runOn ()).1 = .ok results ∧
      (({ onTwoWorkers with jobs := 1 }.runSuite suite none).runOn ()).1 =
        .ok results ∧
      results.length = 2 := by
  intro suite
  have hreference : onTwoWorkers.backends.reference.Functional :=
    fun _ _ => Execution.determined_pure _
  have htarget : onTwoWorkers.backends.target.Functional :=
    fun _ _ => Execution.determined_pure _
  obtain ⟨hfair, hgathered⟩ :=
    runSuite_under_every_schedule onTwoWorkers hreference htarget suite
      none () ()
  have hcompletes := hfair Workers.Scheduler.fair_lastFirst
  obtain ⟨hok, hserial, -⟩ := hgathered hcompletes
  obtain ⟨results, hresults⟩ := hok.mpr (by
    intro c hc
    have hcases :
        c ∈ [Case.mk suite "bin" ⟨["int"]⟩, ⟨suite, "bin", ⟨["None"]⟩⟩] := hc
    rw [List.mem_pair] at hcases
    rcases hcases with rfl | rfl
    · exact ⟨_, rfl⟩
    · exact ⟨_, rfl⟩)
  obtain ⟨hmap, hone⟩ := hserial results hresults
  have hlength := congrArg List.length hmap
  rw [List.length_map, List.length_map] at hlength
  exact ⟨hreference, htarget, hcompletes, results, hresults, hone, hlength.symm⟩

end RunPlan

end Concord
