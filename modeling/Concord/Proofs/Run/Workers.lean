import Concord.Proofs.Execution
import Concord.Run.Workers
import Mathlib.Data.List.Perm.Basic
import Mathlib.Data.List.Sort

/-!
# Workers under every schedule

What the steps of the workers do, whichever worker takes the next one: every
index is claimed once, results stay with the worker that has them, and a job
that stops leaves a failed worker.
-/

namespace Concord

/-- The fault that a worker ends with when its job stops. -/
def Stop.toFault : Stop → Fault
  | .fault f => f
  | .panicked => .workerPanicked

namespace Workers

variable {σ α : Type}

/-! ## The jobs that run along a schedule -/

/-- A job that a worker ran, and how it ended. -/
structure JobRun (α : Type) where
  worker : Nat
  index : Nat
  outcome : Except Stop α

/-- The job that a worker runs in its next step, if it runs one. -/
def nextRun (jobs : List (Execution σ α)) (worker : Nat) (p : Pool σ α) :
    List (JobRun α) :=
  match p.stages[worker]? with
  | some (.running index _) =>
    jobs[index]?.toList.map fun job => ⟨worker, index, (job.runOn p.state).1⟩
  | _ => []

/-- The jobs that run along a schedule, in order. -/
def runs (jobs : List (Execution σ α)) : List Nat → Pool σ α → List (JobRun α)
  | [], _ => []
  | worker :: schedule, p =>
    nextRun jobs worker p ++ runs jobs schedule (step jobs worker p)

/-- The step that the worker after `before` takes, with the job that it runs in
it. -/
inductive Turn (jobs : List (Execution σ α)) (before after : List (Stage α)) :
    Pool σ α → List (JobRun α) → Pool σ α → Prop where
  | look {c s done} :
      Turn jobs before after ⟨c, false, s, before ++ .ready done :: after⟩ []
        ⟨c, false, s, before ++ .claiming done :: after⟩
  | leave {c s done} :
      Turn jobs before after ⟨c, true, s, before ++ .ready done :: after⟩ []
        ⟨c, true, s, before ++ .finished (.ok done.reverse) :: after⟩
  | claim {c b s done} :
      Turn jobs before after ⟨c, b, s, before ++ .claiming done :: after⟩ []
        ⟨c + 1, b, s, before ++ .running c done :: after⟩
  | exhaust {c b s i done} (hi : jobs.length ≤ i) :
      Turn jobs before after ⟨c, b, s, before ++ .running i done :: after⟩ []
        ⟨c, b, s, before ++ .finished (.ok done.reverse) :: after⟩
  | succeed {c b s t i done job a} (hjob : jobs[i]? = some job)
      (hrun : job.runOn s = (.ok a, t)) :
      Turn jobs before after ⟨c, b, s, before ++ .running i done :: after⟩
        [⟨before.length, i, .ok a⟩]
          ⟨c, b, t, before ++ .ready ((i, a) :: done) :: after⟩
  | fail {c b s t i done job f} (hjob : jobs[i]? = some job)
      (hrun : job.runOn s = (.error (.fault f), t)) :
      Turn jobs before after ⟨c, b, s, before ++ .running i done :: after⟩
        [⟨before.length, i, .error (.fault f)⟩]
          ⟨c, b, t, before ++ .aborting f :: after⟩
  | panic {c b s t i done job} (hjob : jobs[i]? = some job)
      (hrun : job.runOn s = (.error .panicked, t)) :
      Turn jobs before after ⟨c, b, s, before ++ .running i done :: after⟩
        [⟨before.length, i, .error .panicked⟩]
        ⟨c, b, t, before ++ .finished (.error .workerPanicked) :: after⟩
  | abort {c b s f} :
      Turn jobs before after ⟨c, b, s, before ++ .aborting f :: after⟩ []
        ⟨c, true, s, before ++ .finished (.error f) :: after⟩

theorem exists_split {stages : List (Stage α)} {worker : Nat} {stage : Stage α}
    (h : stages[worker]? = some stage) :
    ∃ before after, stages = before ++ stage :: after ∧
      before.length = worker := by
  obtain ⟨hworker, rfl⟩ := List.getElem?_eq_some_iff.mp h
  refine ⟨stages.take worker, stages.drop (worker + 1), ?_, ?_⟩
  · rw [List.getElem_cons_drop, List.take_append_drop]
  · exact List.length_take_of_le hworker.le

/-- A step of a worker is a turn, or the worker is finished and nothing
happens. -/
theorem step_cases (jobs : List (Execution σ α)) (worker : Nat) (p : Pool σ α) :
    (step jobs worker p = p ∧ nextRun jobs worker p = [] ∧
      ∀ stage ∈ p.stages[worker]?, ∃ output, stage = .finished output) ∨
    ∃ before after, before.length = worker ∧
      Turn jobs before after p (nextRun jobs worker p)
        (step jobs worker p) := by
  obtain ⟨c, b, s, stages⟩ := p
  cases hstage : stages[worker]? with
  | none => simp [step, nextRun, hstage]
  | some stage =>
      obtain ⟨before, after, rfl, rfl⟩ := exists_split hstage
      cases stage with
      | ready done =>
          refine .inr ⟨before, after, rfl, ?_⟩
          cases b with
          | false => simpa [step, nextRun, Pool.move] using .look
          | true => simpa [step, nextRun, Pool.move] using .leave
      | claiming done =>
          refine .inr ⟨before, after, rfl, ?_⟩
          simpa [step, nextRun, Pool.move] using .claim
      | running i done =>
          refine .inr ⟨before, after, rfl, ?_⟩
          cases hjob : jobs[i]? with
          | none =>
              have hi := List.getElem?_eq_none_iff.mp hjob
              simpa [step, nextRun, runJob, Pool.move, hjob] using .exhaust hi
          | some job =>
              rcases hrun : job.runOn s with ⟨(f | _) | a, t⟩
              · simpa [step, nextRun, runJob, Pool.move, hjob, hrun]
                  using .fail hjob hrun
              · simpa [step, nextRun, runJob, Pool.move, hjob, hrun]
                  using .panic hjob hrun
              · simpa [step, nextRun, runJob, Pool.move, hjob, hrun]
                  using .succeed hjob hrun
      | aborting f =>
          refine .inr ⟨before, after, rfl, ?_⟩
          simpa [step, nextRun, Pool.move] using .abort
      | finished output => simp [step, nextRun]

/-- What stays true in every turn holds after every schedule. -/
theorem runSchedule_induction {jobs : List (Execution σ α)}
    {P : List (JobRun α) → Pool σ α → Prop}
    (hturn : ∀ {before after ran moved p q},
      Turn jobs before after p moved q → P ran p → P (ran ++ moved) q)
    (schedule : List Nat) (ran : List (JobRun α)) {p : Pool σ α} (h : P ran p) :
    P (ran ++ runs jobs schedule p) (runSchedule jobs schedule p) := by
  induction schedule generalizing ran p with
  | nil => simpa [runs, runSchedule] using h
  | cons worker schedule ih =>
      have hnext : P (ran ++ nextRun jobs worker p) (step jobs worker p) := by
        rcases step_cases jobs worker p with
          ⟨hstep, hrun, -⟩ | ⟨before, after, -, hstep⟩
        · rwa [hstep, hrun, List.append_nil]
        · exact hturn hstep h
      rw [runs, ← List.append_assoc]
      exact ih _ hnext

/-! ## Where the indices, results and faults are -/

namespace Stage

/-- The index that a worker has claimed and is about to run. -/
def claimed : Stage α → List Nat
  | .running index _ => [index]
  | _ => []

/-- The results that a worker has. -/
def results : Stage α → List (Nat × α)
  | .ready done | .claiming done | .running _ done | .finished (.ok done) =>
    done
  | _ => []

/-- The fault that ends a worker. -/
def fault? : Stage α → Option Fault
  | .aborting f | .finished (.error f) => some f
  | _ => none

end Stage

/-- Some worker ends with a fault. -/
def Pool.Failed (p : Pool σ α) : Prop :=
  ∃ stage ∈ p.stages, ∃ f, stage.fault? = some f

/-- Claimed indices are below the cursor. -/
def Pool.ClaimsBelow (p : Pool σ α) : Prop :=
  ∀ stage ∈ p.stages, ∀ i ∈ stage.claimed, i < p.cursor

/-- The indices of the jobs that workers are about to run. -/
def pending (jobs : List (Execution σ α)) (stages : List (Stage α)) :
    List Nat :=
  (stages.flatMap Stage.claimed).filter (· < jobs.length)

/-- The index of a job with the way it ended. -/
def JobRun.entry (r : JobRun α) : Nat × Except Stop α :=
  (r.index, r.outcome)

/-- An index with the result of its job. -/
def resultEntry : Nat × α → Nat × Except Stop α :=
  Prod.map id .ok

/-- What the jobs that ran have to do with where the workers stand. -/
structure Accounts (jobs : List (Execution σ α)) (ran : List (JobRun α))
    (p : Pool σ α) : Prop where
  /-- The jobs below the cursor ran or are about to run. -/
  claims : (ran.map JobRun.index ++ pending jobs p.stages).Perm
    (List.range (min p.cursor jobs.length))
  claimsBelow : p.ClaimsBelow
  /-- Unless a worker failed, the workers have the results of all jobs that
  ran. -/
  results : p.Failed ∨
    (ran.map JobRun.entry).Perm
      ((p.stages.flatMap Stage.results).map resultEntry)
  /-- A worker fails because of a job that it ran. -/
  faults : ∀ stage ∈ p.stages, ∀ f, stage.fault? = some f →
    ∃ r ∈ ran, ∃ stop, r.outcome = .error stop ∧ stop.toFault = f
  aborted : p.aborted = true → p.Failed
  /-- A worker leaves because one failed or because no job is left. -/
  left : ∀ stage ∈ p.stages, ∀ done, stage = .finished (.ok done) →
    p.Failed ∨ jobs.length < p.cursor

theorem accounts_start (jobs : List (Execution σ α)) (workers : Nat) (s : σ) :
    Accounts jobs [] (Pool.start workers s) where
  claims := by simp [Pool.start, pending, Stage.claimed]
  claimsBelow := by simp [Pool.ClaimsBelow, Pool.start, Stage.claimed]
  results := by simp [Pool.start, Stage.results]
  faults := by simp [Pool.start, Stage.fault?]
  aborted := by simp [Pool.start]
  left := by simp [Pool.start]

theorem perm_flatMap_middle {β : Type} (f : Stage α → List β)
    (before after : List (Stage α)) (stage : Stage α) :
    ((before ++ stage :: after).flatMap f).Perm
      (f stage ++ (before ++ after).flatMap f) := by
  simpa [List.flatMap_append] using List.perm_append_comm_assoc
    (before.flatMap f) _ _

theorem perm_append_pending_iff {jobs : List (Execution σ α)}
    {before after : List (Stage α)} {stage : Stage α} {xs ys : List Nat} :
    (xs ++ pending jobs (before ++ stage :: after)).Perm ys ↔
      (xs ++ (stage.claimed.filter (· < jobs.length) ++
        pending jobs (before ++ after))).Perm
        ys := by
  have hfront :=
    (perm_flatMap_middle Stage.claimed before after stage).filter
      (· < jobs.length)
  rw [List.filter_append] at hfront
  exact (hfront.append_left xs).congr_left ys

theorem perm_map_results_iff {before after : List (Stage α)} {stage : Stage α}
    {xs : List (Nat × Except Stop α)} :
    xs.Perm (((before ++ stage :: after).flatMap Stage.results).map
      resultEntry) ↔
      xs.Perm ((stage.results ++ (before ++ after).flatMap Stage.results).map
        resultEntry) :=
  ((perm_flatMap_middle Stage.results before after stage).map
    resultEntry).congr_right xs

namespace Turn

variable {jobs : List (Execution σ α)} {before after : List (Stage α)}
  {ran moved : List (JobRun α)} {p q : Pool σ α}

theorem failed (h : Turn jobs before after p moved q) (hp : p.Failed) :
    q.Failed := by
  obtain ⟨stage, hstage, f, hf⟩ := hp
  cases h <;>
    simp only [Pool.Failed, List.mem_append, List.mem_cons] at hstage ⊢ <;>
    grind [Stage.fault?]

theorem claims (h : Turn jobs before after p moved q)
    (hp : (ran.map JobRun.index ++ pending jobs p.stages).Perm
      (List.range (min p.cursor jobs.length))) :
    ((ran ++ moved).map JobRun.index ++ pending jobs q.stages).Perm
      (List.range (min q.cursor jobs.length)) := by
  cases h <;> rw [perm_append_pending_iff] at hp ⊢
  case look | leave | abort => simpa [Stage.claimed] using hp
  case claim c b s done =>
    by_cases hc : c < jobs.length
    · have hmin : min (c + 1) jobs.length = c + 1 := Nat.min_eq_left hc
      have hp' : (ran.map JobRun.index ++ pending jobs (before ++ after)).Perm
          (List.range c) := by
        simpa [Stage.claimed, Nat.min_eq_left hc.le] using hp
      have hlast : (c :: List.range c).Perm (List.range (c + 1)) := by
        rw [List.range_succ]
        exact (List.perm_append_singleton c _).symm
      rw [hmin]
      simpa [Stage.claimed, hc]
        using (List.perm_middle.trans (hp'.cons c)).trans hlast
    · have hmin : min (c + 1) jobs.length = min c jobs.length := by omega
      rw [hmin]
      simpa [Stage.claimed, hc] using hp
  case exhaust c b s i done hi =>
    simpa [Stage.claimed, hi] using hp
  case succeed c b s t i done job a hjob hrun =>
    have hi := (List.getElem?_eq_some_iff.mp hjob).1
    simpa [Stage.claimed, hi] using hp
  case fail c b s t i done job f hjob hrun =>
    have hi := (List.getElem?_eq_some_iff.mp hjob).1
    simpa [Stage.claimed, hi] using hp
  case panic c b s t i done job hjob hrun =>
    have hi := (List.getElem?_eq_some_iff.mp hjob).1
    simpa [Stage.claimed, hi] using hp

theorem cursor_le (h : Turn jobs before after p moved q) :
    p.cursor ≤ q.cursor := by
  cases h <;> simp

theorem claimsBelow (h : Turn jobs before after p moved q)
    (hp : p.ClaimsBelow) : q.ClaimsBelow := by
  have hkept : ∀ stage ∈ p.stages, ∀ i ∈ stage.claimed, i < q.cursor :=
    fun stage hstage i hi => (hp stage hstage i hi).trans_le h.cursor_le
  cases h <;>
    simp only [Pool.ClaimsBelow, List.forall_mem_append,
      List.forall_mem_cons] at hkept ⊢ <;>
    refine ⟨hkept.1, ?_, hkept.2.2⟩ <;> simp [Stage.claimed]

theorem results (h : Turn jobs before after p moved q) (hfailed : ¬q.Failed)
    (hp : (ran.map JobRun.entry).Perm
      ((p.stages.flatMap Stage.results).map resultEntry)) :
    ((ran ++ moved).map JobRun.entry).Perm
      ((q.stages.flatMap Stage.results).map resultEntry) := by
  have hreverse : ∀ done : List (Nat × α),
      ((done ++ (before ++ after).flatMap Stage.results).map resultEntry).Perm
        ((done.reverse ++ (before ++ after).flatMap Stage.results).map
          resultEntry) :=
    fun done => ((List.reverse_perm done).symm.append_right _).map resultEntry
  cases h <;> rw [perm_map_results_iff] at hp ⊢
  case look | claim => simpa [Stage.results] using hp
  case leave c s done =>
    rw [List.append_nil]
    exact hp.trans (hreverse done)
  case exhaust c b s i done hi =>
    rw [List.append_nil]
    exact hp.trans (hreverse done)
  case succeed c b s t i done job a hjob hrun =>
    rw [List.map_append]
    exact (List.perm_append_singleton _ _).trans (hp.cons (resultEntry (i, a)))
  case fail c b s t i done job f hjob hrun =>
    exact absurd ⟨.aborting f, by simp, f, rfl⟩ hfailed
  case panic c b s t i done job hjob hrun =>
    exact absurd ⟨.finished (.error .workerPanicked), by simp, .workerPanicked,
      rfl⟩ hfailed
  case abort c b s f =>
    exact absurd ⟨.finished (.error f), by simp, f, rfl⟩ hfailed

theorem faults (h : Turn jobs before after p moved q)
    (hp : ∀ stage ∈ p.stages, ∀ f, stage.fault? = some f → ∃ r ∈ ran, ∃ stop,
      r.outcome = .error stop ∧ stop.toFault = f) :
    ∀ stage ∈ q.stages, ∀ f, stage.fault? = some f →
      ∃ r ∈ ran ++ moved, ∃ stop, r.outcome = .error stop ∧
        stop.toFault = f := by
  have hkept : ∀ stage ∈ p.stages, ∀ f, stage.fault? = some f →
      ∃ r ∈ ran ++ moved, ∃ stop, r.outcome = .error stop ∧
        stop.toFault = f := by
    intro stage hstage f hf
    obtain ⟨r, hr, hstop⟩ := hp stage hstage f hf
    exact ⟨r, List.mem_append_left moved hr, hstop⟩
  cases h <;>
    simp only [List.forall_mem_append, List.forall_mem_cons] at hkept ⊢ <;>
    refine ⟨hkept.1, ?_, hkept.2.2⟩
  case fail | panic => simp [Stage.fault?, Stop.toFault]
  case abort => exact hkept.2.1
  all_goals simp [Stage.fault?]

theorem aborted (h : Turn jobs before after p moved q)
    (hp : p.aborted = true → p.Failed) (hq : q.aborted = true) : q.Failed := by
  have hfailed := h.failed
  cases h
  case abort c b s f => exact ⟨.finished (.error f), by simp, f, rfl⟩
  all_goals exact hfailed (hp hq)

theorem left (h : Turn jobs before after p moved q)
    (habort : p.aborted = true → p.Failed) (hclaims : p.ClaimsBelow)
    (hp : ∀ stage ∈ p.stages, ∀ done, stage = .finished (.ok done) →
      p.Failed ∨ jobs.length < p.cursor) :
    ∀ stage ∈ q.stages, ∀ done, stage = .finished (.ok done) →
      q.Failed ∨ jobs.length < q.cursor := by
  have hkept : ∀ stage ∈ p.stages, ∀ done, stage = .finished (.ok done) →
      q.Failed ∨ jobs.length < q.cursor :=
    fun stage hstage done heq =>
      (hp stage hstage done heq).imp h.failed h.cursor_le.trans_lt'
  have hfailed := h.failed
  cases h <;>
    simp only [List.forall_mem_append, List.forall_mem_cons] at hkept ⊢ <;>
    refine ⟨hkept.1, ?_, hkept.2.2⟩
  case leave => exact fun _ _ => .inl (hfailed (habort rfl))
  case exhaust c b s i done hi =>
    have hc : i < c :=
      hclaims (.running i done) (by simp) i (by simp [Stage.claimed])
    exact fun _ _ => .inr (hi.trans_lt hc)
  all_goals simp

theorem accounts (h : Turn jobs before after p moved q)
    (hp : Accounts jobs ran p) : Accounts jobs (ran ++ moved) q where
  claims := h.claims hp.claims
  claimsBelow := h.claimsBelow hp.claimsBelow
  results := by
    by_cases hfailed : q.Failed
    · exact .inl hfailed
    · exact .inr (h.results hfailed
        (hp.results.resolve_left fun hp => hfailed (h.failed hp)))
  faults := h.faults hp.faults
  aborted := h.aborted hp.aborted
  left := h.left hp.aborted hp.claimsBelow hp.left

end Turn

theorem accounts_runs (jobs : List (Execution σ α)) (workers : Nat)
    (schedule : List Nat) (s : σ) :
    Accounts jobs (runs jobs schedule (Pool.start workers s))
      (runSchedule jobs schedule (Pool.start workers s)) :=
  runSchedule_induction Turn.accounts schedule []
    (accounts_start jobs workers s)

/-! ## What the workers give together -/

theorem Stage.output_eq_ok_iff {stage : Stage α} {done : List (Nat × α)} :
    stage.output = .ok done ↔ stage = .finished (.ok done) := by
  cases stage <;> simp [Stage.output]

theorem eq_map_finished_of_map_output {stages : List (Stage α)}
    {outputs : List (List (Nat × α))}
    (h : stages.map Stage.output = outputs.map .ok) :
    stages = outputs.map fun done => .finished (.ok done) := by
  induction outputs generalizing stages with
  | nil => simpa using h
  | cons done outputs ih =>
      cases stages with
      | nil => exact nomatch h
      | cons stage stages =>
          obtain ⟨hstage, hstages⟩ := List.cons.inj h
          rw [List.map_cons, Stage.output_eq_ok_iff.mp hstage, ← ih hstages]

/-- The workers give results when all of them left without a fault: what they
have, in the order of the indices. -/
theorem collect_eq_ok {p : Pool σ α} {xs : List α} (h : p.collect = .ok xs) :
    (∀ stage ∈ p.stages, ∃ done, stage = .finished (.ok done)) ∧
      xs = ((p.stages.flatMap Stage.results).mergeSort fun a b => a.1 ≤ b.1).map
        Prod.snd := by
  obtain ⟨outputs, houtputs, hxs⟩ := bind_eq_ok_iff.mp h
  cases hxs
  rw [eq_map_finished_of_map_output (mapM_eq_ok_iff.mp houtputs)]
  have hflat : (outputs.map fun done => Stage.finished (.ok done)).flatMap
      Stage.results =
      outputs.flatten := by
    rw [List.flatMap_map]
    exact List.flatMap_id
  rw [hflat]
  exact ⟨by simp, rfl⟩

theorem exists_of_collect_eq_error {p : Pool σ α} {f : Fault}
    (h : p.collect = .error f) :
    ∃ stage ∈ p.stages, stage.output = .error f := by
  rcases bind_eq_error_iff.mp h with houtputs | ⟨outputs, -, hpure⟩
  · exact exists_of_mapM_eq_error houtputs
  · exact nomatch hpure

theorem not_failed_of_collect_eq_ok {p : Pool σ α} {xs : List α}
    (h : p.collect = .ok xs) : ¬p.Failed := by
  rintro ⟨stage, hstage, f, hf⟩
  obtain ⟨done, rfl⟩ := (collect_eq_ok h).1 stage hstage
  exact nomatch hf

/-- Sorted by index, entries with the indices below `n` are numbered one by
one. -/
theorem mergeSort_eq_zip {rs : List (Nat × α)} {n : Nat}
    (h : (rs.map Prod.fst).Perm (List.range n)) :
    rs.mergeSort (fun a b => a.1 ≤ b.1) =
      (List.range n).zip
        ((rs.mergeSort fun a b => a.1 ≤ b.1).map Prod.snd) := by
  have htrans : ∀ a b c : Nat × α, decide (a.1 ≤ b.1) = true →
      decide (b.1 ≤ c.1) = true →
      decide (a.1 ≤ c.1) = true := by
    intro a b c hab hbc
    exact decide_eq_true ((of_decide_eq_true hab).trans (of_decide_eq_true hbc))
  have htotal : ∀ a b : Nat × α, (decide (a.1 ≤ b.1) || decide (b.1 ≤ a.1)) =
      true := by
    intro a b
    simpa using Nat.le_total a.1 b.1
  have hsorted :
      ((rs.mergeSort fun a b => a.1 ≤ b.1).map Prod.fst).Pairwise (· ≤ ·) :=
    List.pairwise_map.mpr ((List.pairwise_mergeSort htrans htotal rs).imp
      of_decide_eq_true)
  have hperm :
      ((rs.mergeSort fun a b => a.1 ≤ b.1).map Prod.fst).Perm (List.range n) :=
    ((List.mergeSort_perm rs _).map Prod.fst).trans h
  refine List.zip_of_prod ?_ rfl
  exact hperm.eq_of_pairwise (fun _ _ _ _ => Nat.le_antisymm) hsorted
    List.pairwise_le_range

theorem pending_eq_nil {jobs : List (Execution σ α)} {stages : List (Stage α)}
    (h : ∀ stage ∈ stages, ∃ output, stage = .finished output) :
    pending jobs stages = [] := by
  have hnone : stages.flatMap Stage.claimed = [] := by
    rw [List.flatMap_eq_nil_iff]
    intro stage hstage
    obtain ⟨output, rfl⟩ := h stage hstage
    rfl
  rw [pending, hnone, List.filter_nil]

namespace Accounts

variable {jobs : List (Execution σ α)} {ran : List (JobRun α)} {p : Pool σ α}

theorem nodup_index (h : Accounts jobs ran p) : (ran.map JobRun.index).Nodup :=
  (h.claims.nodup_iff.mpr List.nodup_range).of_append_left

theorem failed_of_error (h : Accounts jobs ran p) {r : JobRun α} {stop : Stop}
    (hr : r ∈ ran) (hstop : r.outcome = .error stop) : p.Failed := by
  refine h.results.resolve_right fun hperm => ?_
  have hmem := hperm.subset (List.mem_map_of_mem hr)
  obtain ⟨result, -, heq⟩ := List.mem_map.mp hmem
  have hok : Except.ok result.2 = r.outcome := congrArg Prod.snd heq
  exact nomatch hok.trans hstop

/-- Where the workers give results, every job ran once and gave its result. -/
theorem perm_of_collect_eq_ok (h : Accounts jobs ran p) {xs : List α}
    (hxs : p.collect = .ok xs) (hworkers : jobs ≠ [] → p.stages ≠ []) :
    xs.length = jobs.length ∧
      (ran.map JobRun.entry).Perm
        ((List.range jobs.length).zip (xs.map .ok)) := by
  obtain ⟨hstages, rfl⟩ := collect_eq_ok hxs
  have hfailed := not_failed_of_collect_eq_ok hxs
  have hpending : pending jobs p.stages = [] := by
    refine pending_eq_nil fun stage hstage => ?_
    obtain ⟨done, hdone⟩ := hstages stage hstage
    exact ⟨.ok done, hdone⟩
  have hcursor : min p.cursor jobs.length = jobs.length := by
    by_cases hjobs : jobs = []
    · simp [hjobs]
    · obtain ⟨stage, hstage⟩ := List.exists_mem_of_ne_nil _ (hworkers hjobs)
      obtain ⟨done, hdone⟩ := hstages stage hstage
      exact Nat.min_eq_right
        ((h.left stage hstage done hdone).resolve_left hfailed).le
  have hindex : (ran.map JobRun.index).Perm (List.range jobs.length) := by
    simpa [hpending, hcursor] using h.claims
  have hresults := h.results.resolve_left hfailed
  have hkeys : ((p.stages.flatMap Stage.results).map Prod.fst).Perm
      (List.range jobs.length) := by
    have hfst := hresults.map Prod.fst
    simp only [List.map_map] at hfst
    exact hfst.symm.trans hindex
  have hzip := mergeSort_eq_zip hkeys
  have hperm :=
    List.mergeSort_perm (p.stages.flatMap Stage.results) fun a b => a.1 ≤ b.1
  generalize (p.stages.flatMap Stage.results).mergeSort
    (fun a b => a.1 ≤ b.1) = sorted
    at hzip hperm
  have hlength : sorted.length = jobs.length := by
    simpa using hperm.length_eq.trans (by simpa using hkeys.length_eq)
  refine ⟨(List.length_map _).trans hlength, ?_⟩
  calc
    (ran.map JobRun.entry).Perm
      ((p.stages.flatMap Stage.results).map resultEntry) := hresults
    List.Perm _ (sorted.map resultEntry) := (hperm.map resultEntry).symm
    _ = ((List.range jobs.length).zip (sorted.map Prod.snd)).map resultEntry :=
      congrArg (List.map resultEntry) hzip
    _ = (List.range jobs.length).zip ((sorted.map Prod.snd).map .ok) :=
      List.zip_map_right.symm

end Accounts

end Workers
end Concord
