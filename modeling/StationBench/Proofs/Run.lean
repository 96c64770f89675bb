import Mathlib.Data.List.Forall2
import StationBench.Proofs.Trace
/-!
# What a run reports

If no reading stops a run, it reports on every test of the suite by itself (`Suite.testReports`);
any other run reports on the tests before the first one whose reading stops it, and is interrupted
(`report_tests`, `report_interrupted_iff`). The counters of a report count its tests by status
(`ofTests_eq`).
-/
namespace StationBench

/-! ## The counters of a report -/

namespace RunReport

theorem foldl_push (r : RunReport) (tests : List TestReport) :
    tests.foldl push r =
      { r with
        passed := r.passed + tests.countP (·.status = .passed)
        failed := r.failed + tests.countP (·.status = .failed)
        skipped := r.skipped + tests.countP (·.status = .skipped)
        tests := r.tests ++ tests } := by
  induction tests generalizing r with
  | nil => simp
  | cons t rest ih =>
    rw [List.foldl_cons, ih]
    cases h : t.status <;> simp [push, h, Nat.add_assoc, Nat.add_comm 1]

theorem ofTests_eq (seed : UInt64) (interrupted : Bool) (tests : List TestReport) :
    ofTests seed interrupted tests =
      { seed, interrupted, tests
        passed := tests.countP (·.status = .passed)
        failed := tests.countP (·.status = .failed)
        skipped := tests.countP (·.status = .skipped) } := by
  unfold ofTests
  rw [foldl_push]
  simp

theorem allPassed_iff {r : RunReport} :
    r.allPassed = true ↔ r.failed = 0 ∧ r.interrupted = false := by
  unfold allPassed
  simp

end RunReport

namespace Suite

variable (suite : Suite) (settings : Settings) (readings : Nat → Reading)

theorem visit_of_selects {i : Nat} {test : Test} (h : settings.selects test.name = true) :
    suite.visit settings i test =
      suite.perform settings test (testSeed settings.seed i settings.perTestSeed test.seed) := by
  unfold visit
  rw [if_pos h]

theorem visit_of_not_selects {i : Nat} {test : Test} (h : settings.selects test.name = false) :
    suite.visit settings i test = .skipped test := by
  unfold visit
  rw [if_neg (by simp [h])]

/-- A test that is reported as anything but skipped was performed. -/
theorem selects_of_status_ne_skipped {i : Nat} {test : Test}
    (h : (suite.visit settings i test).report.status ≠ .skipped) :
    settings.selects test.name = true := by
  by_contra hs
  rw [suite.visit_of_not_selects settings (Bool.eq_false_iff.2 hs)] at h
  exact h rfl

/-- The reports of all tests of a suite. -/
def testReports : List TestReport :=
  suite.tests.zipIdx.map fun p => (suite.visit settings p.2 p.1).report

@[simp] theorem length_testReports : (suite.testReports settings).length = suite.tests.length := by
  simp [testReports]

theorem getElem?_testReports (i : Nat) :
    (suite.testReports settings)[i]? =
      suite.tests[i]?.map fun test => (suite.visit settings i test).report := by
  simp [testReports, Function.comp_def]

/-! ## Where a run stops -/

/-- A run visits the tests before the first one whose reading stops it. -/
theorem visits_fst (i : Nat) (tests : List Test) :
    (suite.visits settings readings i tests).1 =
      ((tests.zipIdx i).takeWhile fun p => (settings.stop? (readings p.2)).isNone).map
        fun p => suite.visit settings p.2 p.1 := by
  induction tests generalizing i with
  | nil => rfl
  | cons test rest ih =>
    rw [visits, List.zipIdx_cons, List.takeWhile_cons]
    cases h : settings.stop? (readings i) with
    | some stop => rfl
    | none => simp [ih (i + 1)]

theorem visits_snd_isSome (i : Nat) (tests : List Test) :
    (suite.visits settings readings i tests).2.isSome = true ↔
      (suite.visits settings readings i tests).1.length < tests.length := by
  induction tests generalizing i with
  | nil => simp [visits]
  | cons test rest ih =>
    rw [visits]
    cases h : settings.stop? (readings i) with
    | some stop => simp
    | none => simpa using ih (i + 1)

theorem report_tests :
    (suite.run settings readings).report.tests =
      ((suite.tests.zipIdx).takeWhile fun p => (settings.stop? (readings p.2)).isNone).map
        fun p => (suite.visit settings p.2 p.1).report := by
  rw [Run.report, RunReport.ofTests_eq]
  simp only [run, visits_fst, List.map_map]
  rfl

theorem report_tests_prefix :
    (suite.run settings readings).report.tests <+: suite.testReports settings := by
  rw [report_tests, testReports]
  exact (List.takeWhile_prefix _).map _

/-- A run is interrupted if and only if a test is left out. -/
theorem report_interrupted_iff :
    (suite.run settings readings).report.interrupted = true ↔
      (suite.run settings readings).report.tests.length < suite.tests.length := by
  rw [Run.report, RunReport.ofTests_eq, List.length_map]
  exact suite.visits_snd_isSome settings readings 0 suite.tests

theorem report_tests_of_not_interrupted
    (h : (suite.run settings readings).report.interrupted = false) :
    (suite.run settings readings).report.tests = suite.testReports settings := by
  have hlen : ¬ (suite.run settings readings).report.tests.length < suite.tests.length := by
    rw [← report_interrupted_iff, h]
    exact Bool.false_ne_true
  apply (suite.report_tests_prefix settings readings).eq_of_length_le
  rw [length_testReports]
  omega

/-- The report at an index is the one of the test at that index. -/
theorem getElem?_report_tests {i : Nat} {r : TestReport}
    (h : (suite.run settings readings).report.tests[i]? = some r) :
    ∃ test, suite.tests[i]? = some test ∧ r = (suite.visit settings i test).report := by
  rcases suite.report_tests_prefix settings readings with ⟨later, hl⟩
  have hr : (suite.testReports settings)[i]? = some r := by
    rw [← hl, List.getElem?_append_left (List.getElem?_eq_some_iff.1 h).1, h]
  rw [getElem?_testReports, Option.map_eq_some_iff] at hr
  rcases hr with ⟨test, ht, rfl⟩
  exact ⟨test, ht, rfl⟩

/-- Every report of a run is that of a test, which was skipped or performed. -/
theorem report_cases {r : TestReport} (h : r ∈ (suite.run settings readings).report.tests) :
    ∃ test ∈ suite.tests,
      r = (Visit.skipped test).report ∨ ∃ seed, r = (suite.perform settings test seed).report := by
  obtain ⟨i, hi⟩ := List.mem_iff_getElem?.1 h
  obtain ⟨test, htest, rfl⟩ := suite.getElem?_report_tests settings readings hi
  refine ⟨test, List.mem_of_getElem? htest, ?_⟩
  by_cases hs : settings.selects test.name = true
  · exact Or.inr ⟨_, congrArg Visit.report (suite.visit_of_selects settings hs)⟩
  · rw [suite.visit_of_not_selects settings (Bool.eq_false_iff.2 hs)]
    exact Or.inl rfl

/-- The counters of a run count the statuses of the tests it reports on. -/
theorem report_counters :
    (suite.run settings readings).report.passed =
        (suite.run settings readings).report.tests.countP (·.status = .passed) ∧
      (suite.run settings readings).report.failed =
        (suite.run settings readings).report.tests.countP (·.status = .failed) ∧
      (suite.run settings readings).report.skipped =
        (suite.run settings readings).report.tests.countP (·.status = .skipped) := by
  rw [Run.report, RunReport.ofTests_eq]
  exact ⟨rfl, rfl, rfl⟩

end Suite

end StationBench
