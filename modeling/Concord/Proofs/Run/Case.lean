import Concord.Proofs.Execution
import Concord.Proofs.Expectation
import Concord.Proofs.Matrix

/-!
# What the result of a case means

A case that runs to its end records one entry for each combination of samples of
its types. Its verdict is the worst of the recorded ones, and its outcome says
whether the entries are what its suite expects.
-/

namespace Concord

variable {σ : Type}

theorem CaseResult.disagreements_eq_nil_iff {r : CaseResult} :
    r.disagreements = [] ↔
      ∀ entry ∈ r.samples, entry.verdict.isAgreement = true := by
  simp [disagreements]

namespace Case

variable {c : Case} {m : TypeMatrix} {b : SnippetBuilder} {p : BackendPair σ}

theorem pools_eq_ok_iff {pools : List (List Sample)} :
    c.pools m = .ok pools ↔ c.key.types.map m.samples? = pools.map some := by
  rw [Case.pools, mapM_eq_ok_iff, map_eq_map_iff_forall₂,
    map_eq_map_iff_forall₂]
  constructor
  · exact fun h => h.imp fun _ _ => TypeMatrix.samplesFor_eq_ok_iff.mp
  · exact fun h => h.imp fun _ _ => TypeMatrix.samplesFor_eq_ok_iff.mpr

/-- The entry records the call on the samples: the outcomes that the backends
had, in whatever state they were, and how these compare. -/
def Records (c : Case) (b : SnippetBuilder) (p : BackendPair σ)
    (samples : List Sample) (entry : SampleResult) : Prop :=
  ∃ snippet, b.build c.function samples = .ok snippet ∧
    entry.call = snippet.call ∧
    (∃ s t, (p.outcomes snippet.source).runOn s =
      (.ok (entry.reference, entry.target), t)) ∧
    entry.verdict = entry.reference.compare entry.target

theorem records_of_runSample {samples : List Sample} {entry : SampleResult}
    {s t : σ} (h : (c.runSample b p samples).runOn s = (.ok entry, t)) :
    c.Records b p samples entry := by
  obtain ⟨snippet, u, hsnippet, hrest⟩ := Execution.runOn_bind_eq_ok_iff.mp h
  obtain ⟨hbuild, rfl⟩ := Execution.runOn_ofExcept_eq_ok_iff.mp hsnippet
  obtain ⟨outcomes, v, houtcomes, hpure⟩ :=
    Execution.runOn_bind_eq_ok_iff.mp hrest
  cases hpure
  exact ⟨snippet, hbuild, rfl, ⟨s, t, houtcomes⟩, rfl⟩

theorem exists_of_runOn_run {r : CaseResult} {s t : σ}
    (h : (c.run m b p).runOn s = (.ok r, t)) :
    ∃ pools entries, c.pools m = .ok pools ∧
      List.Forall₂ (c.Records b p) (combinations pools) entries ∧
      r = c.conclude entries := by
  obtain ⟨pools, u, hlookup, hrest⟩ := Execution.runOn_bind_eq_ok_iff.mp h
  obtain ⟨hpools, rfl⟩ := Execution.runOn_ofExcept_eq_ok_iff.mp hlookup
  obtain ⟨entries, v, hentries, hpure⟩ :=
    Execution.runOn_bind_eq_ok_iff.mp hrest
  cases hpure
  refine ⟨pools, entries, hpools, ?_, rfl⟩
  refine (Execution.forall₂_of_runOn_mapM hentries).imp ?_
  rintro samples entry ⟨u, v, hrun⟩
  exact records_of_runSample hrun

theorem exists_combinationAt {pools : List (List Sample)}
    {entries : List SampleResult}
    (h : List.Forall₂ (c.Records b p) (combinations pools) entries) {i : Nat}
    {entry : SampleResult} (hentry : entries[i]? = some entry) :
    ∃ samples, combinationAt pools i = some samples ∧
      c.Records b p samples entry := by
  obtain ⟨hlength, hrecords⟩ := List.forall₂_iff_get.mp h
  obtain ⟨hi, rfl⟩ := List.getElem?_eq_some_iff.mp hentry
  have hi' : i < (combinations pools).length := by omega
  refine ⟨(combinations pools)[i], ?_, hrecords i hi' hi⟩
  rw [← getElem?_combinations, List.getElem?_eq_getElem hi']

section Conclusion

variable (c) (entries : List SampleResult)

theorem conclude_verdict_spec :
    (∀ entry ∈ entries,
      entry.verdict.rank ≤ (c.conclude entries).verdict.rank) ∧
    (entries = [] → (c.conclude entries).verdict = .same) ∧
    (entries ≠ [] → ∃ entry ∈ entries,
      entry.verdict = (c.conclude entries).verdict) := by
  refine ⟨?_, ?_, ?_⟩
  · intro entry hentry
    exact Verdict.rank_le_rank_worst (List.mem_map_of_mem hentry)
  · rintro rfl
    rfl
  · intro hne
    have hmem :
        (c.conclude entries).verdict ∈ entries.map SampleResult.verdict :=
      Verdict.worst_mem (by simpa using hne)
    exact List.mem_map.mp hmem

theorem conclude_verdict_eq_of_perm {entries entries' : List SampleResult}
    (h : entries.Perm entries') :
    (c.conclude entries).verdict = (c.conclude entries').verdict :=
  Verdict.worst_eq_of_perm (h.map SampleResult.verdict)

theorem conclude_verdict_eq_same_iff :
    (c.conclude entries).verdict = .same ↔
      ∀ entry ∈ entries, entry.verdict = .same := by
  rw [← List.forall_mem_map (P := fun v => v = Verdict.same)]
  exact Verdict.worst_eq_same_iff

theorem isAgreement_conclude_iff :
    (c.conclude entries).verdict.isAgreement = true ↔
      (c.conclude entries).disagreements = [] := by
  rw [CaseResult.disagreements_eq_nil_iff]
  change _ ↔ ∀ entry ∈ entries, _
  rw [← List.forall_mem_map (P := fun v => Verdict.isAgreement v = true)]
  exact Verdict.isAgreement_worst_iff

theorem conclude_outcome_of_registered (h : c.expectedFailure = true) :
    (c.conclude entries).outcome =
      if ∀ entry ∈ entries, entry.verdict = .same then .unexpectedSuccess
      else .expectedFailure := by
  simp only [← conclude_verdict_eq_same_iff c entries]
  exact Registry.resolve_of_contains h _

theorem conclude_outcome_of_not_registered (h : ¬c.expectedFailure = true) :
    (c.conclude entries).outcome =
      if (c.conclude entries).disagreements = [] then .pass else .fail := by
  simp only [← isAgreement_conclude_iff c entries]
  exact Registry.resolve_of_not_contains h _

theorem conclude_outcome_spec :
    let r := c.conclude entries
    (r.outcome = .fail ↔ ¬c.expectedFailure = true ∧ r.disagreements ≠ []) ∧
    (r.outcome = .pass ↔ ¬c.expectedFailure = true ∧ r.disagreements = []) ∧
    (r.outcome = .unexpectedSuccess ↔
      c.expectedFailure = true ∧ ∀ entry ∈ entries, entry.verdict = .same) ∧
    (r.outcome = .expectedFailure ↔
      c.expectedFailure = true ∧ ∃ entry ∈ entries, entry.verdict ≠ .same) := by
  intro r
  by_cases hregistered : c.expectedFailure = true
  · have houtcome := conclude_outcome_of_registered c entries hregistered
    by_cases hsame : ∀ entry ∈ entries, entry.verdict = .same
    · rw [if_pos hsame] at houtcome
      simpa [r, houtcome, hregistered] using hsame
    · rw [if_neg hsame] at houtcome
      have hother : ∃ entry ∈ entries, entry.verdict ≠ .same := by
        simpa using hsame
      simpa [r, houtcome, hregistered] using hother
  · have houtcome := conclude_outcome_of_not_registered c entries hregistered
    by_cases hnone : r.disagreements = []
    · rw [if_pos hnone] at houtcome
      simp [r, houtcome, hregistered, hnone]
    · rw [if_neg hnone] at houtcome
      simp [r, houtcome, hregistered, hnone]

end Conclusion

/-- What the result of a case says: which calls were recorded, that the verdict
is the worst of theirs in whatever order they come, and what each outcome means
for them. -/
theorem run_result_meaning (c : Case) (m : TypeMatrix) (b : SnippetBuilder)
    (p : BackendPair σ) {r : CaseResult} {s t : σ}
    (h : (c.run m b p).runOn s = (.ok r, t)) :
    let registered := c.suite.registry.contains c.function c.key.label = true
    (∃ pools, c.key.types.map m.samples? = pools.map some ∧
      r.samples.length = (pools.map List.length).prod ∧
      ∀ i entry, r.samples[i]? = some entry →
        ∃ samples, combinationAt pools i = some samples ∧
          c.Records b p samples entry) ∧
    ((∀ entry ∈ r.samples, entry.verdict.rank ≤ r.verdict.rank) ∧
      (r.samples = [] → r.verdict = .same) ∧
      (r.samples ≠ [] → ∃ entry ∈ r.samples, entry.verdict = r.verdict)) ∧
    (∀ entries, entries.Perm r.samples →
      (c.conclude entries).verdict = r.verdict) ∧
    (r.expectedFailure = true ↔ registered) ∧
    (r.outcome = .fail ↔ ¬registered ∧ r.disagreements ≠ []) ∧
    (r.outcome = .pass ↔ ¬registered ∧ r.disagreements = []) ∧
    (r.outcome = .unexpectedSuccess ↔
      registered ∧ ∀ entry ∈ r.samples, entry.verdict = .same) ∧
    (r.outcome = .expectedFailure ↔
      registered ∧ ∃ entry ∈ r.samples, entry.verdict ≠ .same) ∧
    (r.outcome = .unexpectedSuccess → r.disagreements = []) ∧
    (r.outcome = .fail → r.disagreements ≠ []) := by
  obtain ⟨pools, entries, hpools, hrecords, rfl⟩ := exists_of_runOn_run h
  intro registered
  obtain ⟨hfail, hpass, hsuccess, hfailure⟩ := conclude_outcome_spec c entries
  refine ⟨⟨pools, pools_eq_ok_iff.mp hpools, ?_,
    fun i entry => exists_combinationAt hrecords⟩,
    conclude_verdict_spec c entries,
    fun _ hperm => conclude_verdict_eq_of_perm c hperm, Iff.rfl,
    hfail, hpass, hsuccess, hfailure, ?_, fun houtcome => (hfail.mp houtcome).2⟩
  · rw [← length_combinations]
    exact hrecords.length_eq.symm
  · intro houtcome
    rw [← isAgreement_conclude_iff,
      (conclude_verdict_eq_same_iff c entries).mpr]
    · rfl
    · exact (hsuccess.mp houtcome).2

/-- Both backends raise the same exception and count their executions. -/
def raisingBackends : BackendPair Nat :=
  let raising (name : String) : Backend Nat :=
    ⟨name, fun _ _ => do
      modify (· + 1)
      return .completed "@@parity:err TypeError unsupported operand\n"⟩
  { reference := raising "reference", target := raising "target" }

/-- A registered case with two types. -/
def registeredPow : Case where
  suite :=
    { name := "Arithmetic", functions := ["pow"], arity := .two,
      registry := ({} : Registry).insert "pow" "test_int_None" }
  function := "pow"
  key := ⟨["int", "None"]⟩

/-- The backends agree on both samples, by the kind of failure; a registered
case is an expected failure all the same. -/
theorem run_result_of_raisingBackends :
    let m := TypeMatrix.ofDeclarations
      [("int", [.ofValue "int" (.int 3), .ofValue "int" (.int (-5))]),
       ("None", [.ofValue "None" .null])]
    ∃ r, (registeredPow.run m .unchecked raisingBackends).runOn 0 = (.ok r, 4) ∧
      r.samples.map SampleResult.verdict =
        [.bothFailedAlike, .bothFailedAlike] ∧
      r.disagreements = [] ∧ r.outcome = .expectedFailure := by
  intro m
  obtain ⟨r, hrun, hverdicts⟩ :
      ∃ r, (registeredPow.run m .unchecked raisingBackends).runOn 0 =
        (.ok r, 4) ∧
        r.samples.map SampleResult.verdict =
          [.bothFailedAlike, .bothFailedAlike] :=
    ⟨_, rfl, rfl⟩
  have halike : ∀ entry ∈ r.samples, entry.verdict = .bothFailedAlike := by
    intro entry hentry
    have hmem := List.mem_map_of_mem (f := SampleResult.verdict) hentry
    simpa [hverdicts] using hmem
  obtain ⟨-, -, -, -, -, -, -, hfailure, -⟩ :=
    run_result_meaning registeredPow m .unchecked raisingBackends hrun
  refine ⟨r, hrun, hverdicts, ?_, hfailure.mpr ⟨by rfl, ?_⟩⟩
  · refine CaseResult.disagreements_eq_nil_iff.mpr fun entry hentry => ?_
    rw [halike entry hentry]
    rfl
  · have hne : r.samples ≠ [] := by
      intro hnil
      simp [hnil] at hverdicts
    obtain ⟨entry, hentry⟩ := List.exists_mem_of_ne_nil _ hne
    exact ⟨entry, hentry, by simp [halike entry hentry]⟩

end Case
end Concord
