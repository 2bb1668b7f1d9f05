import Concord.Proofs.Expectation
import Concord.Proofs.Registry
import Concord.Proofs.Run.Suite

/-!
# Registering an expectation

What a case runs does not depend on the registry of its suite. So a registration
changes the results of the cases that it names, and of these only the
expectation and the outcome.
-/

namespace Concord

variable {σ : Type}

/-- The suite with one more expected failure. -/
def Suite.register (s : Suite) (function label : String) : Suite :=
  { s with registry := s.registry.insert function label }

/-- The case in its suite with one more expected failure. -/
def Case.register (c : Case) (function label : String) : Case :=
  { c with suite := c.suite.register function label }

namespace CaseResult

/-- The result is one of the function and the label, in either spelling. -/
def IsNamedBy (r : CaseResult) (function label : String) : Prop :=
  r.function = function ∧
    normaliseEntry (CaseKey.mk r.types).label = normaliseEntry label

instance (r : CaseResult) (function label : String) :
    Decidable (r.IsNamedBy function label) :=
  inferInstanceAs (Decidable (_ ∧ _))

/-- The result as an expected failure. -/
def expected (r : CaseResult) : CaseResult :=
  { r with
    expectedFailure := true
    outcome :=
      if r.verdict = .same then .unexpectedSuccess else .expectedFailure }

/-- The result after the label of the function was registered. -/
def registered (function label : String) (r : CaseResult) : CaseResult :=
  if r.IsNamedBy function label then r.expected else r

end CaseResult

/-! ## One case -/

namespace Case

variable {function label : String}

theorem expectedFailure_register {c : Case} :
    (c.register function label).expectedFailure = true ↔
      (c.function = function ∧
        normaliseEntry c.key.label = normaliseEntry label) ∨
        c.expectedFailure = true :=
  Registry.contains_insert

theorem conclude_register (c : Case) (entries : List SampleResult) :
    (c.register function label).conclude entries =
      (c.conclude entries).registered function label := by
  by_cases hnamed : (c.conclude entries).IsNamedBy function label
  · have hmarked : (c.register function label).expectedFailure = true :=
      expectedFailure_register.mpr (Or.inl hnamed)
    have houtcome := Registry.resolve_of_contains hmarked
    rw [CaseResult.registered, if_pos hnamed]
    simp only [conclude, hmarked, houtcome]
    rfl
  · have hsame : (c.register function label).expectedFailure =
        c.expectedFailure := by
      rw [Bool.eq_iff_iff, expectedFailure_register]
      exact or_iff_right hnamed
    have houtcome :
        ∀ v, (c.register function label).suite.registry.resolve c.function
        c.key.label v = c.suite.registry.resolve c.function c.key.label v :=
      Registry.resolve_congr hsame
    rw [CaseResult.registered, if_neg hnamed]
    simp only [conclude, hsame]
    rw [← houtcome]
    rfl

/-- A registration has no part in what a case runs. -/
theorem run_register (c : Case) (m : TypeMatrix) (b : SnippetBuilder)
    (p : BackendPair σ) :
    (c.register function label).run m b p =
      CaseResult.registered function label <$> c.run m b p := by
  simp only [run, map_bind, conclude_register]
  rfl

theorem runOn_run_register {c : Case} {m : TypeMatrix} {b : SnippetBuilder}
    {p : BackendPair σ} {r : CaseResult} {s t : σ}
    (h : (c.run m b p).runOn s = (.ok r, t)) :
    ((c.register function label).run m b p).runOn s =
      (.ok (r.registered function label), t) := by
  rw [run_register, map_eq_pure_bind, Execution.runOn_bind, h]
  rfl

end Case

/-! ## All cases of a suite -/

namespace Suite

variable (s : Suite) (m : TypeMatrix) (function label : String)

theorem cases_register :
    (s.register function label).cases m =
      (s.cases m).map fun c => c.register function label := by
  simp only [cases, List.map_flatMap, List.map_map]
  rfl

theorem selectedCases_register (filter : Option String) :
    (s.register function label).selectedCases m filter =
      (s.selectedCases m filter).map fun c => c.register function label := by
  rw [selectedCases, cases_register, List.filter_map]
  rfl

end Suite

/-- What the backend leaves behind is a function of the source and of the time
limit. -/
def Backend.Stateless (b : Backend σ) : Prop :=
  ∀ source timeoutMs, (b.execute source timeoutMs).Stateless

namespace RunPlan

variable {plan : RunPlan σ} {suite : Suite} {filter : Option String}

/-- A case that has a result from some state has it, as registered, from every
state. -/
theorem yields_runCase_register (hreference : plan.backends.reference.Stateless)
    (htarget : plan.backends.target.Stateless) {c : Case} {r : CaseResult}
    {u v : σ} (h : (plan.runCase c).runOn u = (.ok r, v))
    (function label : String) :
    (plan.runCase (c.register function label)).Yields
      (.ok (r.registered function label)) := by
  have hstateless : (plan.runCase (c.register function label)).Stateless :=
    Execution.closed_stateless.run _ _ _ hreference htarget
  exact hstateless.yields_of_ok (Case.runOn_run_register h)

theorem outcome_runSuite_register
    (hreference : plan.backends.reference.Stateless)
    (htarget : plan.backends.target.Stateless) {s s' : σ}
    {results : List CaseResult}
    (h : ((plan.runSuite suite filter).runOn s).1 = .ok results)
    (function label : String) (scheduler : Workers.Scheduler σ)
    (hcompletes : { plan with scheduler := scheduler }.Completes
      (suite.register function label) filter s') :
    (({ plan with scheduler := scheduler }.runSuite
        (suite.register function label) filter).runOn s').1 =
      .ok (results.map (CaseResult.registered function label)) := by
  have hruns := forall₂_of_runOn_runSuite (Prod.ext h rfl)
  refine runSuite_eq_ok_of_yields ?_ hcompletes
  rw [Suite.selectedCases_register, List.forall₂_map_left_iff,
    List.forall₂_map_right_iff]
  refine hruns.imp ?_
  rintro c r ⟨u, v, hrun⟩
  exact yields_runCase_register hreference htarget hrun function label

/-- Where a suite has results, it still has them after a registration, also on
another schedule on which all workers finish. Place by place they are the
same, except that those which the registration names are expected failures.
No other result fails than before. Every fair schedule is one on which all
workers finish. -/
theorem runSuite_register_frame (plan : RunPlan σ)
    (hreference : plan.backends.reference.Stateless)
    (htarget : plan.backends.target.Stateless) (suite : Suite)
    (filter : Option String) (function label : String)
    (scheduler : Workers.Scheduler σ) {s s' : σ} {results : List CaseResult}
    (h : ((plan.runSuite suite filter).runOn s).1 = .ok results) :
    let registered := suite.register function label
    let again := { plan with scheduler := scheduler }
    (scheduler.Fair → again.Completes registered filter s') ∧
    (again.Completes registered filter s' →
      ∃ results', ((again.runSuite registered filter).runOn s').1 =
          .ok results' ∧
        results'.length = results.length ∧
        ∀ (i : Nat) (r r' : CaseResult),
          results[i]? = some r → results'[i]? = some r' →
            (¬r.IsNamedBy function label → r' = r) ∧
            (r.IsNamedBy function label → r' = r.expected) ∧
            (r'.id = r.id ∧ r'.verdict = r.verdict ∧ r'.samples = r.samples) ∧
            (r'.outcome = .fail → r.outcome = .fail)) := by
  intro registered again
  refine ⟨fun hfair => completes_of_fair hfair s', fun hcompletes => ?_⟩
  refine ⟨results.map (CaseResult.registered function label),
    outcome_runSuite_register hreference htarget h function label scheduler
      hcompletes, List.length_map _, ?_⟩
  intro i r r' hr hr'
  obtain rfl : r.registered function label = r' := by
    rw [List.getElem?_map, hr] at hr'
    exact Option.some.inj hr'
  by_cases hnamed : r.IsNamedBy function label
  · have hexpected : r.registered function label = r.expected := if_pos hnamed
    rw [hexpected]
    refine ⟨fun hnot => absurd hnamed hnot, fun _ => rfl, ⟨rfl, rfl, rfl⟩,
      fun hfail => ?_⟩
    rw [CaseResult.expected] at hfail
    split_ifs at hfail
  · have hsame : r.registered function label = r := if_neg hnamed
    rw [hsame]
    exact ⟨fun _ => rfl, fun hyes => absurd hyes hnamed, ⟨rfl, rfl, rfl⟩, id⟩

/-- The registration of one case, with the workers taking turns the other way
round. -/
theorem runSuite_register_frame_onTwoWorkers :
    let suite : Suite :=
      { name := "Bin", functions := ["bin", "oct"], arity := .one }
    let plan := { onTwoWorkers with scheduler := .turns }
    ∃ results results',
      ((onTwoWorkers.runSuite suite none).runOn ()).1 = .ok results ∧
      ((plan.runSuite (suite.register "oct" "test_None") none).runOn ()).1 =
        .ok results' ∧
      results'.length = 4 ∧
      ∃ r r', results[3]? = some r ∧ results'[3]? = some r' ∧
        r.expectedFailure = false ∧
        r' = r.expected := by
  intro suite plan
  have hreference : onTwoWorkers.backends.reference.Stateless :=
    fun _ _ => Execution.stateless_pure _
  have htarget : onTwoWorkers.backends.target.Stateless :=
    fun _ _ => Execution.stateless_pure _
  obtain ⟨results, hyields, hlength, r, hr, hnamed, hnot⟩ : ∃ results,
      List.Forall₂ (fun c r => (onTwoWorkers.runCase c).Yields (.ok r))
        (suite.selectedCases onTwoWorkers.matrix none) results ∧
        results.length = 4 ∧
        ∃ r, results[3]? = some r ∧ r.IsNamedBy "oct" "test_None" ∧
          r.expectedFailure = false := by
    refine ⟨_, .cons (fun _ => rfl) (.cons (fun _ => rfl) (.cons (fun _ => rfl)
      (.cons (fun _ => rfl) .nil))), rfl, _, rfl, ⟨rfl, ?_⟩, rfl⟩
    decide
  have hresults := runSuite_eq_ok_of_yields hyields
    (completes_of_fair Workers.Scheduler.fair_lastFirst ())
  obtain ⟨hfair, hagain⟩ := runSuite_register_frame onTwoWorkers hreference
    htarget suite none "oct" "test_None" .turns hresults
  obtain ⟨results', hresults', hlength', hframe⟩ :=
    hagain (hfair Workers.Scheduler.fair_turns)
  rw [hlength] at hlength'
  have hr' : results'[3]? = some results'[3] :=
    List.getElem?_eq_getElem (by omega)
  exact ⟨results, results', hresults, hresults', hlength', r, _, hr, hr', hnot,
    (hframe 3 r _ hr hr').2.1 hnamed⟩

end RunPlan

end Concord
