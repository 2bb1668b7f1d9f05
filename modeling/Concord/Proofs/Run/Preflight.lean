import Concord.Proofs.Run.Attempts
import Concord.Proofs.Run.Listing
import Concord.Proofs.Snippet
import Concord.Proofs.Suite.Declaration

/-!
# Probing the matrix

A probe calls one function on one sample. If all probes can be built, every
sample has a text, and no case over the matrix stops because of a sample,
whatever its function and however many arguments it has: a case that stops
with such a fault was given it by a backend. If some probe cannot be built,
a run stops before it executes a backend.
-/

namespace Concord

variable {σ α β ε : Type}

/-! ## Where faults come from -/

/-- A fault of the workers is a fault of one of the jobs, unless a worker
panicked. -/
theorem Workers.exists_job_of_runOn_run {jobs : List (Execution σ α)}
    {f : Fault} (hpanic : f ≠ .workerPanicked) {schedule : List Nat}
    {workers : Nat} {s : σ}
    (h : ((run schedule workers jobs).runOn s).1 = .error (.fault f)) :
    ∃ job ∈ jobs, ∃ u, (job.runOn u).1 = .error (.fault f) := by
  rw [runOn_run] at h
  cases hcollect :
      (runSchedule jobs schedule (Pool.start workers s)).collect with
  | ok results =>
      rw [hcollect] at h
      exact nomatch h
  | error f' =>
      rw [hcollect] at h
      obtain rfl : f' = f := Stop.fault.inj (Except.error.inj h)
      obtain ⟨stage, hstage, houtput⟩ := exists_of_collect_eq_error hcollect
      have hfault : stage.fault? = some f' := by
        cases stage with
        | finished output =>
            obtain rfl : output = .error f' := houtput
            rfl
        | _ => exact absurd (Except.error.inj houtput).symm hpanic
      obtain ⟨job, hjob, u, stop, hstop, hf⟩ :=
        exists_job_of_fault? hstage hfault
      cases stop with
      | panicked => exact absurd hf.symm hpanic
      | fault f'' =>
          obtain rfl : f'' = f' := hf
          exact ⟨job, hjob, u, hstop⟩

/-- A fault of a suite is a fault of one of its cases, unless a worker
panicked. -/
theorem RunPlan.exists_case_of_runOn_runSuite {plan : RunPlan σ}
    {suite : Suite} {filter : Option String} {f : Fault}
    (hpanic : f ≠ .workerPanicked) {s : σ}
    (h : ((plan.runSuite suite filter).runOn s).1 = .error (.fault f)) :
    ∃ c ∈ suite.selectedCases plan.matrix filter,
      ∃ u, ((plan.runCase c).runOn u).1 = .error (.fault f) := by
  by_cases hserial : plan.jobs ≤ 1 ∨
      (suite.selectedCases plan.matrix filter).length ≤ 1
  · rw [runSuite_of_serial hserial] at h
    exact Execution.exists_of_runOn_mapM_eq_error h
  · rw [not_or, not_le, not_le] at hserial
    obtain ⟨hjobs, hcases⟩ := hserial
    rw [runOn_runSuite_of_parallel hjobs hcases] at h
    obtain ⟨job, hjob, u, hstop⟩ := Workers.exists_job_of_runOn_run hpanic h
    obtain ⟨c, hc, rfl⟩ := List.mem_map.mp hjob
    exact ⟨c, hc, u, hstop⟩

/-! ## What the log says was executed -/

/-- The backend of a side. -/
def BackendPair.on (p : BackendPair σ) : Side → Backend σ
  | .reference => p.reference
  | .target => p.target

/-- The attempt ended as its backend ends on that source, in some state. -/
def BackendPair.Executes (p : BackendPair σ) (a : Attempt) : Prop :=
  ∃ s, (((p.on a.side).execute a.source a.timeoutMs).runOn s).1 = a.result

/-- The execution notes only what the backends did. -/
def Execution.Truthful (p : BackendPair σ)
    (y : Execution (σ × List Attempt) α) : Prop :=
  ∀ s log, ∃ added, (y.runOn (s, log)).2.2 = log ++ added ∧
    ∀ a ∈ added, p.Executes a

theorem Execution.closed_truthful (p : BackendPair σ) :
    Closed fun α (y : Execution (σ × List Attempt) α) => y.Truthful p where
  pure a := by
    intro s log
    exact ⟨[], by simp, List.forall_mem_nil _⟩
  ofExcept toFault x := by
    intro s log
    exact ⟨[], by simp, List.forall_mem_nil _⟩
  bind {α β y g} hy hg := by
    intro s log
    obtain ⟨first, hlog, hfirst⟩ := hy s log
    rw [runOn_bind]
    cases hrun : y.runOn (s, log) with
    | mk r t =>
        rw [hrun] at hlog
        cases r with
        | error stop => exact ⟨first, hlog, hfirst⟩
        | ok a =>
            obtain ⟨rest, hrest, hexecutes⟩ := hg a t.1 t.2
            refine ⟨first ++ rest, ?_, ?_⟩
            · rw [← List.append_assoc, ← hlog]
              exact hrest
            · exact List.forall_mem_append.mpr ⟨hfirst, hexecutes⟩

theorem BackendPair.truthful_execute (p : BackendPair σ) (side : Side)
    (source : String) (timeoutMs : Nat) :
    (((p.on side).recorded side).execute source timeoutMs).Truthful p := by
  intro s log
  exact ⟨_, rfl, List.forall_mem_singleton.mpr ⟨s, rfl⟩⟩

theorem Case.truthful_run (c : Case) (m : TypeMatrix) (b : SnippetBuilder)
    (p : BackendPair σ) : (c.run m b p.recorded).Truthful p :=
  (Execution.closed_truthful p).run c m b (p.truthful_execute .reference)
    (p.truthful_execute .target)

/-! ## Probes -/

namespace SnippetBuilder

variable {b : SnippetBuilder} {m : TypeMatrix}

theorem probeSamples_eq (b : SnippetBuilder) (checked : Nat)
    (samples : List Sample) :
    b.probeSamples checked samples =
      (samples.mapM fun s => b.build probeFunction [s]).map
        fun snippets => checked + snippets.length := by
  induction samples generalizing checked with
  | nil => rfl
  | cons s samples ih =>
      rw [probeSamples, List.foldlM_cons, List.mapM_cons]
      cases b.build probeFunction [s] with
      | error e => rfl
      | ok snippet =>
          change b.probeSamples (checked + 1) samples = _
          rw [ih]
          cases samples.mapM fun s => b.build probeFunction [s] with
          | error e => rfl
          | ok snippets =>
              change Except.ok (checked + 1 + snippets.length) =
                Except.ok (checked + (snippets.length + 1))
              rw [Nat.add_assoc, Nat.add_comm 1]

theorem foldlM_probeType_eq {names : List String}
    (hnames : ∀ t ∈ names, t ∈ m.typeNames) (checked : Nat) :
    names.foldlM (b.probeType m) checked =
      b.probeSamples checked
        (names.flatMap fun t => (m.samples? t).getD []) := by
  induction names generalizing checked with
  | nil => rfl
  | cons t names ih =>
      obtain ⟨ht, hrest⟩ := List.forall_mem_cons.mp hnames
      obtain ⟨samples, hsamples⟩ := TypeMatrix.exists_samples?_of_mem ht
      have htype : b.probeType m checked t =
          b.probeSamples checked samples := by
        rw [probeType, hsamples]
      rw [List.foldlM_cons, htype, List.flatMap_cons, hsamples,
        Option.getD_some]
      unfold probeSamples
      rw [List.foldlM_append]
      exact bind_congr fun checked => ih hrest checked

/-- Probing type by type is probing all samples in order. -/
theorem probe_eq (b : SnippetBuilder) (m : TypeMatrix) :
    b.probe m =
      ((m.typeNames.flatMap fun t => (m.samples? t).getD []).mapM
        fun s => b.build probeFunction [s]).map List.length := by
  rw [probe, foldlM_probeType_eq (fun _ ht => ht), probeSamples_eq]
  simp

theorem probe_eq_ok_iff {n : Nat} :
    let samples := m.typeNames.flatMap fun t => (m.samples? t).getD []
    b.probe m = .ok n ↔ n = samples.length ∧
      ∀ s ∈ samples, ∃ snippet, b.build probeFunction [s] = .ok snippet := by
  intro samples
  rw [probe_eq]
  cases hprobes : samples.mapM fun s => b.build probeFunction [s] with
  | error e =>
      obtain ⟨s, hs, herror⟩ := exists_of_mapM_eq_error hprobes
      refine iff_of_false nofun ?_
      rintro ⟨-, hall⟩
      obtain ⟨snippet, hsnippet⟩ := hall s hs
      rw [hsnippet] at herror
      exact nomatch herror
  | ok snippets =>
      have hmap := mapM_eq_ok_iff.mp hprobes
      have hlength : samples.length = snippets.length := by
        simpa using congrArg List.length hmap
      have hall : ∀ s ∈ samples,
          ∃ snippet, b.build probeFunction [s] = .ok snippet := by
        intro s hs
        have hmem := List.mem_map_of_mem
          (f := fun s => b.build probeFunction [s]) hs
        rw [hmap] at hmem
        obtain ⟨snippet, -, hsnippet⟩ := List.mem_map.mp hmem
        exact ⟨snippet, hsnippet.symm⟩
      rw [hlength, and_iff_left hall]
      exact ⟨fun h => (Except.ok.inj h).symm, fun h => congrArg _ h.symm⟩

theorem probe_eq_error_iff {e : SnippetError} :
    b.probe m = .error e ↔ ∃ before s after,
      (m.typeNames.flatMap fun t => (m.samples? t).getD []) =
        before ++ s :: after ∧
      (∀ x ∈ before, ∃ snippet, b.build probeFunction [x] = .ok snippet) ∧
      b.build probeFunction [s] = .error e := by
  rw [← mapM_eq_error_iff, probe_eq]
  cases List.mapM (fun s => b.build probeFunction [s])
    (m.typeNames.flatMap fun t => (m.samples? t).getD []) with
  | error e' => exact ⟨fun h => congrArg _ (Except.error.inj h),
      fun h => congrArg _ (Except.error.inj h)⟩
  | ok snippets => exact iff_of_false nofun nofun

theorem exists_render_of_probe_eq_ok {n : Nat} (h : b.probe m = .ok n)
    {t : String} {samples : List Sample} (ht : m.samples? t = some samples) :
    ∀ s ∈ samples, ∃ text, s.render = .ok text := by
  intro s hs
  have hmem : s ∈ m.typeNames.flatMap fun t => (m.samples? t).getD [] := by
    refine List.mem_flatMap.mpr ⟨t, ?_, by rwa [ht, Option.getD_some]⟩
    exact List.mem_map_of_mem (TypeMatrix.mem_entries_of_samples?_eq_some ht)
  obtain ⟨snippet, hsnippet⟩ := (probe_eq_ok_iff.mp h).2 s hmem
  exact exists_render_of_build_eq_ok hsnippet s List.mem_cons_self

/-- The faults that cannot arise once every sample was probed. -/
inductive RulesOut (b : SnippetBuilder) : Fault → Prop
  | unknownType (typeName : String) : RulesOut b (.unknownType typeName)
  | unsupportedSample (typeName description : String) :
      RulesOut b (.snippet (.unsupportedSample typeName description))
  | snippet (e : SnippetError) : (∀ source, b.check source = true) →
      RulesOut b (.snippet e)

theorem RulesOut.ne_of_build_eq_error {f : Fault} (hf : b.RulesOut f)
    (hrender : ∀ s ∈ samples, ∃ text, s.render = .ok text) {e : SnippetError}
    (h : b.build function samples = .error e) : Fault.snippet e ≠ f := by
  rintro rfl
  rcases build_error_cases h with
    ⟨s, hs, herror⟩ | ⟨⟨args, rfl⟩, source, hcheck⟩
  · obtain ⟨text, htext⟩ := hrender s hs
    rw [htext] at herror
    exact nomatch herror
  · cases hf with
    | snippet _ hpasses => simp [hpasses source] at hcheck

end SnippetBuilder

/-! ## Cases and suites over a probed matrix -/

theorem Case.exists_pools_eq_ok {c : Case} {m : TypeMatrix}
    (hkey : ∀ t ∈ c.key.types, t ∈ m.typeNames) :
    ∃ pools, c.pools m = .ok pools := by
  cases hpools : c.pools m with
  | ok pools => exact ⟨pools, rfl⟩
  | error f =>
      obtain ⟨t, ht, hlookup⟩ := exists_of_mapM_eq_error hpools
      obtain ⟨samples, hsamples⟩ :=
        TypeMatrix.exists_samples?_of_mem (hkey t ht)
      rw [TypeMatrix.samplesFor_eq_ok_iff.mpr hsamples] at hlookup
      exact nomatch hlookup

section Probed

variable {m : TypeMatrix} {b : SnippetBuilder} {n : Nat}
  (hprobe : b.probe m = .ok n)
include hprobe

theorem Case.exists_render_of_mem_combinations {c : Case}
    {pools : List (List Sample)} (hpools : c.pools m = .ok pools)
    {samples : List Sample} (hsamples : samples ∈ combinations pools) :
    ∀ s ∈ samples, ∃ text, s.render = .ok text := by
  intro s hs
  obtain ⟨pool, hmem, hs'⟩ := exists_pool_of_mem_combinations hsamples hs
  have hsome : some pool ∈ c.key.types.map m.samples? := by
    rw [pools_eq_ok_iff.mp hpools]
    exact List.mem_map_of_mem hmem
  obtain ⟨t, -, ht⟩ := List.mem_map.mp hsome
  exact SnippetBuilder.exists_render_of_probe_eq_ok hprobe ht s hs'

/-- A case over a probed matrix stops with a fault that probing rules out
exactly when it was given the fault by a backend. -/
theorem Case.run_eq_fault_iff {p : BackendPair σ} {f : Fault}
    (hf : b.RulesOut f) {c : Case}
    (hkey : ∀ t ∈ c.key.types, t ∈ m.typeNames) (s : σ) :
    let run := (c.run m b p.recorded).runOn (s, [])
    run.1 = .error (.fault f) ↔
      ∃ a ∈ run.2.2, a.result = .error (.fault f) := by
  intro run
  obtain ⟨added, htrace, hrun⟩ := c.traced_run m b p s []
  have hresult : run.1 = ((c.run m b p).runOn s).1 := congrArg Prod.fst hrun
  have hlog : run.2.2 = added := congrArg (fun t => t.2.2) hrun
  rw [← hresult, ← hlog] at htrace
  constructor
  · intro hstop
    rw [hstop] at htrace
    rcases htrace.cause_of_error with hgiven | ⟨f', hpools, -⟩ |
      ⟨calls, samples, e, hreaches, hbuild, hsame, -⟩
    · exact hgiven
    · obtain ⟨pools, hok⟩ := exists_pools_eq_ok hkey
      rw [hok] at hpools
      exact nomatch hpools
    · obtain ⟨pools, before, after, hpools, hcombos, -⟩ := hreaches
      have hmem : samples ∈ combinations pools := by
        rw [hcombos]
        exact List.mem_append_right before List.mem_cons_self
      have hrender := exists_render_of_mem_combinations hprobe hpools hmem
      exact absurd (Stop.fault.inj hsame).symm
        (hf.ne_of_build_eq_error hrender hbuild)
  · rintro ⟨a, ha, hgiven⟩
    exact (htrace.exists_interrupted_of_mem ha hgiven).1

end Probed

theorem SnippetBuilder.RulesOut.ne_workerPanicked {b : SnippetBuilder}
    {f : Fault} (hf : b.RulesOut f) : f ≠ .workerPanicked := by
  rintro rfl
  exact nomatch hf

/-- Recording the backends changes nothing. -/
theorem Case.runOn_run_recorded (c : Case) (m : TypeMatrix)
    (b : SnippetBuilder) (p : BackendPair σ) (s : σ) :
    ((c.run m b p.recorded).runOn (s, [])).1 = ((c.run m b p).runOn s).1 := by
  obtain ⟨added, -, hrun⟩ := c.traced_run m b p s []
  rw [hrun]

theorem RunPlan.runOn_run_of_probe_eq_error (plan : RunPlan σ)
    {e : SnippetError} (h : plan.builder.probe plan.matrix = .error e)
    (suites : List Suite) (filter : Option String) (s : σ) :
    (plan.run suites filter).runOn s = (.error (.fault (.snippet e)), s) := by
  rw [run, preflight, h]
  rfl

theorem Config.builder_of_plan_eq_ok {c : Config} {b : SnippetBuilder}
    {m : TypeMatrix} {start : CommandBackend → Backend σ} {plan : RunPlan σ}
    (h : c.plan b m start = .ok plan) : plan.builder = b := by
  obtain ⟨⟨reference, target⟩, -, hplan⟩ := bind_eq_ok_iff.mp h
  cases hplan
  rfl

theorem Config.runScheduled_of_probe_eq_error {c : Config}
    {b : SnippetBuilder} {m : TypeMatrix}
    {start : CommandBackend → Backend σ} {plan : RunPlan σ} {e : SnippetError}
    (h : b.probe m = .error e) (hplan : c.plan b m start = .ok plan)
    (scheduler : Workers.Scheduler σ) (suites : List Suite)
    (filter : Option String) (s : σ) :
    c.runScheduled scheduler b m start suites filter s =
      (.error (.stopped (.fault (.snippet e))), s) := by
  have hprobe : plan.builder.probe plan.matrix = .error e := by
    rw [matrix_of_plan_eq_ok hplan, builder_of_plan_eq_ok hplan, h]
  have hrun := { plan with scheduler := scheduler }.runOn_run_of_probe_eq_error
    hprobe suites filter s
  simp only [runScheduled, hplan, hrun]

/-- What probing a declared matrix decides, for every check of sources. It
counts the samples if it succeeds. Then a case of the matrix stops with a
fault of a sample exactly when a backend gave it that fault, and a suite only
when one of its cases does. If probing fails, a run stops with its error, and
no backend has been executed. It reports a sample without a literal exactly
when this is the first sample that cannot be probed. -/
theorem probe_rules_out_sample_faults
    (declarations : List (String × List Sample)) (b : SnippetBuilder) :
    let m := TypeMatrix.ofDeclarations declarations
    let samples := m.typeNames.flatMap fun t => (m.samples? t).getD []
    let probed (x : Sample) :=
      ∃ snippet, b.build SnippetBuilder.probeFunction [x] = .ok snippet
    (∀ n, b.probe m = .ok n ↔ n = samples.length ∧ ∀ x ∈ samples, probed x) ∧
    (∀ n, b.probe m = .ok n →
      ∀ (σ : Type) (p : BackendPair σ) (f : Fault), b.RulesOut f →
        (∀ c : Case, (∀ t ∈ c.key.types, t ∈ m.typeNames) → ∀ s,
          let run := (c.run m b p.recorded).runOn (s, [])
          ((c.run m b p).runOn s).1 = run.1 ∧
          (run.1 = .error (.fault f) ↔
            ∃ a ∈ run.2.2, a.result = .error (.fault f)) ∧
          ∀ a ∈ run.2.2, p.Executes a) ∧
        (∀ jobs scheduler suite filter s,
          (((RunPlan.mk m b p jobs scheduler).runSuite suite filter).runOn
            s).1 = .error (.fault f) →
          ∃ c ∈ suite.cases m,
            ∃ u, ((c.run m b p).runOn u).1 = .error (.fault f)) ∧
        ((∀ a, p.Executes a → a.result ≠ .error (.fault f)) →
          (∀ c : Case, (∀ t ∈ c.key.types, t ∈ m.typeNames) →
            ∀ s, ((c.run m b p).runOn s).1 ≠ .error (.fault f)) ∧
          ∀ jobs scheduler suite filter s,
            (((RunPlan.mk m b p jobs scheduler).runSuite suite filter).runOn
              s).1 ≠ .error (.fault f))) ∧
    (∀ e, b.probe m = .error e →
      ∀ (σ : Type) (p : BackendPair σ) jobs scheduler suites filter s log,
        ((RunPlan.mk m b p.recorded jobs scheduler).run suites filter).runOn
            (s, log) =
          (.error (.fault (.snippet e)), s, log)) ∧
    (∀ e, b.probe m = .error e →
      ∀ (σ : Type) (c : Config) (start : CommandBackend → Backend σ) plan,
        c.plan b m start = .ok plan → ∀ scheduler suites filter s,
          c.runScheduled scheduler b m start suites filter s =
            (.error (.stopped (.fault (.snippet e))), s)) ∧
    (∀ t d, b.probe m = .error (.unsupportedSample t d) ↔
      ∃ before x after v, samples = before ++ x :: after ∧
        (∀ y ∈ before, probed y) ∧ x.form = .literal v ∧ v.literal? = none ∧
        t = x.typeName ∧ d = v.describe) := by
  intro m samples probed
  refine ⟨fun n => SnippetBuilder.probe_eq_ok_iff, ?_, ?_, ?_, ?_⟩
  · intro n hprobe σ p f hf
    have hcase : ∀ c : Case, (∀ t ∈ c.key.types, t ∈ m.typeNames) → ∀ s,
        (∀ a, p.Executes a → a.result ≠ .error (.fault f)) →
          ((c.run m b p).runOn s).1 ≠ .error (.fault f) := by
      intro c hkey s hnone hstop
      rw [← Case.runOn_run_recorded] at hstop
      obtain ⟨a, ha, hgiven⟩ :=
        (Case.run_eq_fault_iff hprobe hf hkey s).mp hstop
      obtain ⟨added, hlog, hexecutes⟩ := c.truthful_run m b p s []
      rw [hlog, List.nil_append] at ha
      exact hnone a (hexecutes a ha) hgiven
    have hsuite : ∀ jobs scheduler suite filter s,
        (((RunPlan.mk m b p jobs scheduler).runSuite suite filter).runOn
          s).1 = .error (.fault f) →
        ∃ c ∈ suite.cases m, ∃ u, ((c.run m b p).runOn u).1 =
          .error (.fault f) := by
      intro jobs scheduler suite filter s hstop
      obtain ⟨c, hc, u, hcase⟩ :=
        RunPlan.exists_case_of_runOn_runSuite hf.ne_workerPanicked hstop
      exact ⟨c, (List.mem_filter.mp hc).1, u, hcase⟩
    refine ⟨?_, hsuite, fun hnone => ⟨fun c hkey s => hcase c hkey s hnone, ?_⟩⟩
    · intro c hkey s
      refine ⟨(c.runOn_run_recorded m b p s).symm,
        Case.run_eq_fault_iff hprobe hf hkey s, ?_⟩
      obtain ⟨added, hlog, hexecutes⟩ := c.truthful_run m b p s []
      rw [hlog, List.nil_append]
      exact hexecutes
    · intro jobs scheduler suite filter s hstop
      obtain ⟨c, hc, u, hfault⟩ := hsuite jobs scheduler suite filter s hstop
      obtain ⟨-, -, hkey⟩ := Suite.mem_cases.mp hc
      exact hcase c (m.mem_caseKeys.mp hkey).2 u hnone hfault
  · intro e hprobe σ p jobs scheduler suites filter s log
    exact RunPlan.runOn_run_of_probe_eq_error _ hprobe suites filter (s, log)
  · intro e hprobe σ c start plan hplan
    exact Config.runScheduled_of_probe_eq_error hprobe hplan
  · intro t d
    simp only [SnippetBuilder.probe_eq_error_iff, samples, probed,
      SnippetBuilder.build_singleton_eq_unsupported_iff]
    constructor
    · rintro ⟨before, x, after, hsplit, hbefore, v, hunsupported⟩
      exact ⟨before, x, after, v, hsplit, hbefore, hunsupported⟩
    · rintro ⟨before, x, after, v, hsplit, hbefore, hunsupported⟩
      exact ⟨before, x, after, hsplit, hbefore, v, hunsupported⟩

/-- A suite of two arguments. -/
def powSuite : Suite :=
  { name := "Arithmetic", functions := ["pow"], arity := .two }

/-- Three samples that can be probed, run by backends that always raise; and a
sample without a literal before another one. -/
theorem probe_rules_out_sample_faults_of_verbatim :
    let declared := TypeMatrix.ofDeclarations
      [("int", [.ofValue "int" (.int 3), .ofValue "int" (.int (-5))]),
       ("None", [.ofValue "None" .null])]
    let opened := TypeMatrix.ofDeclarations
      [("object", [.ofValue "object" (.verbatim "<object>"),
         .ofExpression "object" "object("])]
    let e := SnippetError.unsupportedSample "object"
      (Value.verbatim "<object>").describe
    (SnippetBuilder.unchecked.probe declared = .ok 3 ∧
      ∀ e', (((RunPlan.mk declared .unchecked Case.raisingBackends 2
        .lastFirst).runSuite powSuite none).runOn 0).1 ≠
          .error (.fault (.snippet e'))) ∧
    SnippetBuilder.unchecked.probe opened = .error e ∧
    ((RunPlan.mk opened .unchecked Case.raisingBackends.recorded 2
      .lastFirst).run [powSuite] none).runOn (0, []) =
        (.error (.fault (.snippet e)), 0, []) ∧
    Config.onTwoJobs.runScheduled .lastFirst .unchecked opened
        CommandBackend.counting [powSuite] none 0 =
      (.error (.stopped (.fault (.snippet e))), 0) := by
  intro declared opened e
  constructor
  · obtain ⟨-, hruled, -⟩ := probe_rules_out_sample_faults
      [("int", [.ofValue "int" (.int 3), .ofValue "int" (.int (-5))]),
       ("None", [.ofValue "None" .null])] .unchecked
    have hprobe : SnippetBuilder.unchecked.probe declared = .ok 3 := rfl
    refine ⟨hprobe, fun e' => ?_⟩
    have hraising : ∀ a, Case.raisingBackends.Executes a →
        a.result ≠ .error (.fault (.snippet e')) := by
      rintro ⟨_ | _, source, timeoutMs, result⟩ ⟨s, hs⟩ hresult
      · exact nomatch hs.trans hresult
      · exact nomatch hs.trans hresult
    obtain ⟨-, -, hnone⟩ := hruled 3 hprobe Nat Case.raisingBackends
      (.snippet e') (.snippet e' fun _ => rfl)
    exact (hnone hraising).2 2 _ powSuite none 0
  · obtain ⟨-, -, hstopped, hconfigured, hfirst⟩ :=
      probe_rules_out_sample_faults
        [("object", [.ofValue "object" (.verbatim "<object>"),
           .ofExpression "object" "object("])] .unchecked
    have hprobe : SnippetBuilder.unchecked.probe opened = .error e :=
      (hfirst _ _).mpr
        ⟨[], _, _, _, rfl, List.forall_mem_nil _, rfl, rfl, rfl, rfl⟩
    obtain ⟨plan, hplan⟩ : ∃ plan, Config.onTwoJobs.plan .unchecked opened
        CommandBackend.counting = .ok plan := ⟨_, rfl⟩
    refine ⟨hprobe, ?_, ?_⟩
    · exact hstopped e hprobe Nat Case.raisingBackends 2 _ [powSuite] none 0 []
    · exact hconfigured e hprobe Nat _ _ plan hplan _ [powSuite] none 0

/-- Both backends report that a type is unknown. -/
def confusedBackends : BackendPair Unit :=
  let confused (name : String) : Backend Unit :=
    ⟨name, fun _ _ => throw (.fault (.unknownType "int"))⟩
  { reference := confused "reference", target := confused "target" }

/-- A probed matrix does not keep a backend from giving a fault of a sample, nor
a case of another type from being run over it. -/
theorem sample_faults_of_confusedBackends :
    let m := TypeMatrix.ofDeclarations [("int", [.ofValue "int" (.int 3)])]
    let suite : Suite := { name := "Text", functions := ["bin"], arity := .one }
    let b := SnippetBuilder.unchecked
    b.probe m = .ok 1 ∧
    b.RulesOut (.unknownType "int") ∧ b.RulesOut (.unknownType "str") ∧
    (((Case.mk suite "bin" ⟨["int"]⟩).run m b confusedBackends).runOn ()).1 =
      .error (.fault (.unknownType "int")) ∧
    (((RunPlan.mk m b confusedBackends 1 .turns).runSuite suite none).runOn
      ()).1 = .error (.fault (.unknownType "int")) ∧
    (((Case.mk suite "bin" ⟨["str"]⟩).run m b
      RunPlan.onTwoWorkers.backends).runOn ()).1 =
        .error (.fault (.unknownType "str")) := by
  exact ⟨rfl, .unknownType "int", .unknownType "str", rfl, rfl, rfl⟩

end Concord
