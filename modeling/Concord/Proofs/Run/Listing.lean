import Concord.Proofs.Matrix
import Concord.Proofs.Run.Case
import Concord.Proofs.Run.Suite
import Concord.Run.Configured

/-!
# The listing and the run

A run that gives a report has run the listed cases, in the order of the listing.
The cases of a suite are every function with every key, function by function.
-/

namespace Concord

variable {σ : Type}

/-! ## The cases of a suite -/

namespace Suite

variable (suite : Suite) (m : TypeMatrix)

theorem length_cases :
    (suite.cases m).length =
      suite.functions.length * m.size ^ suite.arity.count := by
  simp [cases, List.length_flatMap, TypeMatrix.length_caseKeys]

theorem getElem?_cases {k i : Nat} {function : String} {key : CaseKey}
    (hfunction : suite.functions[k]? = some function)
    (hkey : (m.caseKeys suite.arity)[i]? = some key) :
    (suite.cases m)[k * m.size ^ suite.arity.count + i]? =
      some ⟨suite, function, key⟩ := by
  have hi : i < m.size ^ suite.arity.count := by
    rw [← TypeMatrix.length_caseKeys]
    exact (List.getElem?_eq_some_iff.mp hkey).1
  have hlength : ∀ function ∈ suite.functions,
      ((m.caseKeys suite.arity).map fun key =>
        Case.mk suite function key).length =
        m.size ^ suite.arity.count := by
    simp [TypeMatrix.length_caseKeys]
  rw [cases, getElem?_flatMap_of_length hlength k hi, hfunction]
  simp [hkey]

theorem selectedCases_none : suite.selectedCases m none = suite.cases m :=
  List.filter_eq_self.mpr fun _ _ => rfl

end Suite

theorem listCases_eq_flatMap (suites : List Suite) (m : TypeMatrix)
    (filter : Option String) :
    listCases suites m filter =
      suites.flatMap fun suite =>
        (suite.selectedCases m filter).map Case.id := by
  have hids : ∀ suite : Suite, (suite.functions.flatMap fun function =>
      (m.caseKeys suite.arity).map fun key => (Case.mk suite function key).id) =
        (suite.cases m).map Case.id := by
    intro suite
    simp [Suite.cases, List.map_flatMap, Function.comp_def]
  simp only [listCases, hids, List.filter_flatMap, List.filter_map]
  rfl

/-! ## The identifiers of a run -/

theorem Case.id_of_runOn_run {c : Case} {m : TypeMatrix} {b : SnippetBuilder}
    {p : BackendPair σ} {r : CaseResult} {s t : σ}
    (h : (c.run m b p).runOn s = (.ok r, t)) : r.id = c.id := by
  obtain ⟨pools, entries, -, -, rfl⟩ := exists_of_runOn_run h
  rfl

namespace RunPlan

variable {plan : RunPlan σ} {filter : Option String} {s t : σ}
  {results : List CaseResult}

theorem ids_of_runOn_runSuite {suite : Suite}
    (h : (plan.runSuite suite filter).runOn s = (.ok results, t)) :
    (suite.selectedCases plan.matrix filter).map Case.id =
      results.map CaseResult.id := by
  refine map_eq_map_iff_forall₂.mpr ((forall₂_of_runOn_runSuite h).imp ?_)
  rintro c r ⟨u, v, hrun⟩
  exact (Case.id_of_runOn_run hrun).symm

theorem ids_of_runOn_runSuites {suites : List Suite}
    (h : (plan.runSuites suites filter).runOn s = (.ok results, t)) :
    results.map CaseResult.id = listCases suites plan.matrix filter := by
  obtain ⟨parts, u, hparts, hpure⟩ := Execution.runOn_bind_eq_ok_iff.mp h
  cases hpure
  have hids :
      (suites.map fun suite =>
        (suite.selectedCases plan.matrix filter).map Case.id) =
        parts.map (List.map CaseResult.id) := by
    refine map_eq_map_iff_forall₂.mpr
      ((Execution.forall₂_of_runOn_mapM hparts).imp ?_)
    rintro suite part ⟨u, v, hrun⟩
    exact ids_of_runOn_runSuite hrun
  rw [listCases_eq_flatMap, List.flatMap_def, hids, List.map_flatten]

theorem ids_of_runOn_run {suites : List Suite}
    (h : (plan.run suites filter).runOn s = (.ok results, t)) :
    results.map CaseResult.id = listCases suites plan.matrix filter := by
  obtain ⟨_, u, -, hsuites⟩ := Execution.runOn_bind_eq_ok_iff.mp h
  exact ids_of_runOn_runSuites hsuites

end RunPlan

namespace Config

variable {c : Config} {b : SnippetBuilder} {m : TypeMatrix}
  {start : CommandBackend → Backend σ}

theorem matrix_of_plan_eq_ok {plan : RunPlan σ}
    (h : c.plan b m start = .ok plan) : plan.matrix = m := by
  obtain ⟨⟨reference, target⟩, -, hplan⟩ := bind_eq_ok_iff.mp h
  cases hplan
  rfl

theorem ids_of_runScheduled {scheduler : Workers.Scheduler σ}
    {suites : List Suite} {filter : Option String} {s t : σ} {report : Report}
    (h : c.runScheduled scheduler b m start suites filter s = (.ok report, t)) :
    report.cases.map CaseResult.id = listCases suites m filter := by
  unfold runScheduled at h
  cases hplan : c.plan b m start with
  | error e => simp [hplan] at h
  | ok plan =>
      simp only [hplan] at h
      split at h
      · exact nomatch h
      · rename_i cases u hrun
        cases h
        rw [RunPlan.ids_of_runOn_run hrun, matrix_of_plan_eq_ok hplan]

end Config

/-- A run that gives a report has run the listed cases in the order of the
listing, whatever the schedule. Over a matrix built by declarations the keys are
all tuples of type names, each once, and a suite contributes every function with
every key. -/
theorem listing_exact_and_complete (m : TypeMatrix) :
    (∀ (c : Config) (scheduler : Workers.Scheduler σ) (b : SnippetBuilder)
      (start : CommandBackend → Backend σ) (suites : List Suite)
      (filter : Option String) (s t : σ) (report : Report),
      c.runScheduled scheduler b m start suites filter s = (.ok report, t) →
        report.cases.map CaseResult.id = listCases suites m filter) ∧
    (∀ declarations, m = .ofDeclarations declarations →
      (∀ arity, (m.caseKeys arity).length = m.size ^ arity.count ∧
        (m.caseKeys arity).Nodup ∧
        ∀ key : CaseKey, key ∈ m.caseKeys arity ↔
          key.types.length = arity.count ∧ ∀ t ∈ key.types, t ∈ m.typeNames) ∧
      (∀ i j a b, m.typeNames[i]? = some a → m.typeNames[j]? = some b →
        (m.caseKeys .two)[i * m.size + j]? = some ⟨[a, b]⟩) ∧
      (∀ suites, listCases suites m none =
        suites.flatMap fun suite => (suite.selectedCases m none).map Case.id) ∧
      ∀ suite : Suite,
        (suite.selectedCases m none).length =
          suite.functions.length * m.size ^ suite.arity.count ∧
        ∀ k i function key, suite.functions[k]? = some function →
          (m.caseKeys suite.arity)[i]? = some key →
            (suite.selectedCases m none)[k * m.size ^ suite.arity.count + i]? =
              some ⟨suite, function, key⟩) := by
  refine ⟨fun c scheduler b start suites filter s t report h =>
    Config.ids_of_runScheduled h, ?_⟩
  intro declarations hm
  have hnodup : m.typeNames.Nodup := by
    rw [hm]
    exact TypeMatrix.nodup_typeNames_ofDeclarations declarations
  refine ⟨fun arity => ?_, fun i j a b ha hb => m.getElem?_caseKeys_two ha hb,
    fun suites => listCases_eq_flatMap suites m none, fun suite => ?_⟩
  · exact ⟨m.length_caseKeys arity, m.nodup_caseKeys hnodup arity,
      fun key => m.mem_caseKeys⟩
  · rw [suite.selectedCases_none]
    exact ⟨suite.length_cases m, fun k i function key => suite.getElem?_cases m⟩

/-- A type that is declared again moves to the end. -/
def TypeMatrix.redeclared : TypeMatrix :=
  .ofDeclarations
    [("int", [.ofValue "int" (.int 3)]), ("str", [.ofValue "str" (.str "x")]),
     ("int", [.ofValue "int" (.int 3), .ofValue "int" (.int (-5))])]

/-- Suites of both arities. -/
def conversionSuites : List Suite :=
  [{ name := "Text", functions := ["bin", "hex"], arity := .one },
   { name := "Arithmetic", functions := ["pow"], arity := .two }]

/-- Two cases run at a time. -/
def Config.onTwoJobs : Config :=
  { target := some { name := "target", command := "pypy3" }, jobs := 2 }

/-- Every command becomes a backend that counts its executions and prints the
same value each time. -/
def CommandBackend.counting (b : CommandBackend) : Backend Nat :=
  ⟨b.name, fun _ _ => do
    modify (· + 1)
    return .completed "@@parity:ok int 3\n"⟩

/-- Both backends execute each of the twelve calls. -/
theorem listing_of_conversionSuites :
    ∃ report, Config.onTwoJobs.runScheduled .lastFirst .unchecked .redeclared
        CommandBackend.counting conversionSuites (some "int") 0 =
          (.ok report, 24) ∧
      report.cases.map CaseResult.id =
        ["Text.test_int[bin]", "Text.test_int[hex]",
         "Arithmetic.test_str_int[pow]", "Arithmetic.test_int_str[pow]",
         "Arithmetic.test_int_int[pow]"] ∧
      (TypeMatrix.redeclared.caseKeys .two)[
          1 * TypeMatrix.redeclared.size + 0]? = some ⟨["int", "str"]⟩ := by
  obtain ⟨hlisted, hcomplete⟩ := listing_exact_and_complete .redeclared
  obtain ⟨-, hplace, -⟩ := hcomplete _ rfl
  obtain ⟨report, hrun⟩ : ∃ report, Config.onTwoJobs.runScheduled .lastFirst
      .unchecked .redeclared CommandBackend.counting conversionSuites
      (some "int") 0 = (.ok report, 24) := ⟨_, rfl⟩
  refine ⟨report, hrun, ?_, hplace 1 0 "int" "str" (by decide) (by decide)⟩
  rw [hlisted .onTwoJobs _ _ CommandBackend.counting conversionSuites _ 0 24
    report hrun]
  decide

end Concord
