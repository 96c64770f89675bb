import StationBench.Proofs.Run
/-!
# Runs that stop early

A run looks at a reading before every test and stops on the first one that shows it to be cancelled
or out of time (`Settings.StopsOn`). What it reports by then is what it would report first if it
went on, so that a run that stops early keeps the beginning of the reports of the whole run
(`report_keeps_prefix`). This is so for every pattern of readings, those that stop the run before its
first test, and the run of a suite without tests, included.
-/
namespace StationBench

/-! ## Readings that stop a run -/

/-- A run stops on a reading if it was cancelled, or if it has a timeout and is at it or past it. -/
def Settings.StopsOn (settings : Settings) (r : Reading) : Prop :=
  r.cancelled = true ∨
    ∃ timeout, settings.timeout = some timeout ∧ timeout.toNat * 1000000 ≤ r.elapsed

namespace Settings

theorem stopsOn_iff {settings : Settings} {r : Reading} :
    settings.StopsOn r ↔ (settings.stop? r).isSome = true := by
  unfold StopsOn stop?
  cases r.cancelled with
  | true => simp
  | false =>
    cases settings.timeout with
    | none => simp
    | some timeout =>
      rw [if_neg Bool.false_ne_true, Option.bind_some]
      constructor
      · rintro (hno | ⟨_, ⟨⟩, hle⟩)
        · cases hno
        · rw [if_pos hle]
          rfl
      · intro h
        refine Or.inr ⟨timeout, rfl, ?_⟩
        by_contra hle
        rw [if_neg hle] at h
        cases h

end Settings

/-! ## Where a run stops -/

namespace Suite

variable (suite : Suite) (settings : Settings) (readings : Nat → Reading)

/-- No reading before a visited test stops the run. -/
theorem stop?_of_lt_visits (i : Nat) (tests : List Test) {j : Nat}
    (hj : j < (suite.visits settings readings i tests).1.length) :
    settings.stop? (readings (i + j)) = none := by
  induction tests generalizing i j with
  | nil => simp [visits] at hj
  | cons test rest ih =>
    rw [visits] at hj
    cases h : settings.stop? (readings i) with
    | some stop => simp [h] at hj
    | none =>
      cases j with
      | zero => exact h
      | succ j =>
        rw [Nat.add_succ, ← Nat.succ_add]
        exact ih (i + 1) (by simpa [h] using hj)

/-- If tests are left out, the reading before the first of them stops the run. -/
theorem stop?_of_visits_lt (i : Nat) (tests : List Test)
    (hlt : (suite.visits settings readings i tests).1.length < tests.length) :
    (settings.stop?
      (readings (i + (suite.visits settings readings i tests).1.length))).isSome = true := by
  induction tests generalizing i with
  | nil => simp at hlt
  | cons test rest ih =>
    rw [visits] at hlt ⊢
    cases h : settings.stop? (readings i) with
    | some stop => simp [h]
    | none =>
      simp only [h, List.length_cons, Nat.add_lt_add_iff_right] at hlt ⊢
      rw [Nat.add_succ, ← Nat.succ_add]
      exact ih (i + 1) hlt

theorem length_report_tests :
    (suite.run settings readings).report.tests.length =
      (suite.visits settings readings 0 suite.tests).1.length := by
  rw [Run.report, RunReport.ofTests_eq]
  exact List.length_map _

theorem not_stopsOn_of_lt {i : Nat} (hi : i < (suite.run settings readings).report.tests.length) :
    ¬ settings.StopsOn (readings i) := by
  rw [length_report_tests] at hi
  have hnone := suite.stop?_of_lt_visits settings readings 0 suite.tests hi
  rw [Nat.zero_add] at hnone
  rw [Settings.stopsOn_iff, hnone]
  exact Bool.false_ne_true

theorem stopsOn_of_lt
    (hlt : (suite.run settings readings).report.tests.length < suite.tests.length) :
    settings.StopsOn (readings (suite.run settings readings).report.tests.length) := by
  rw [length_report_tests] at hlt ⊢
  have hsome := suite.stop?_of_visits_lt settings readings 0 suite.tests hlt
  rw [Nat.zero_add] at hsome
  exact Settings.stopsOn_iff.2 hsome

/-- A run that no reading stops reports on all tests. -/
theorem report_tests_of_calm (h : ∀ i < suite.tests.length, ¬ settings.StopsOn (readings i)) :
    (suite.run settings readings).report.tests = suite.testReports settings := by
  apply suite.report_tests_of_not_interrupted settings readings
  rw [Bool.eq_false_iff, ne_eq, report_interrupted_iff]
  intro hlt
  exact h _ hlt (suite.stopsOn_of_lt settings readings hlt)

/-- The timeout has no part in what the single tests come to. -/
theorem testReports_untimed :
    suite.testReports { settings with timeout := none } = suite.testReports settings := rfl

end Suite

/-! ## Counters and skipped tests -/

/-- Every test is in one of the three counters. -/
theorem TestReport.countP_status_add (tests : List TestReport) :
    tests.countP (·.status = .passed) + tests.countP (·.status = .failed) +
      tests.countP (·.status = .skipped) = tests.length := by
  induction tests with
  | nil => rfl
  | cons t rest ih =>
    cases ht : t.status <;> simp [ht] <;> omega

/-- Nothing of a test that was skipped is reported but its name. -/
theorem Suite.visit_report_of_skipped {suite : Suite} {settings : Settings} {i : Nat} {test : Test}
    (h : (suite.visit settings i test).report.status = .skipped) :
    (suite.visit settings i test).report = { name := test.name, status := .skipped } := by
  by_cases hs : settings.selects test.name = true
  · rw [suite.visit_of_selects settings hs] at h
    exact absurd h (Trace.status_ne_skipped _)
  · rw [suite.visit_of_not_selects settings (Bool.eq_false_iff.2 hs)]
    rfl

/-! ## What is kept -/

/-- The report of a run is the beginning of what the run would report if nothing stopped it. -/
structure KeepsPrefix (suite : Suite) (settings : Settings) (readings : Nat → Reading)
    (report : RunReport) : Prop where
  /-- The reports are the first ones of any run, with these settings, that no reading stops. -/
  calm : ∀ readings', (∀ i < suite.tests.length, ¬ settings.StopsOn (readings' i)) →
    let whole := (suite.run settings readings').report
    report.tests <+: whole.tests ∧ whole.tests.length = suite.tests.length
  /-- They are also the first ones of the run without a timeout, which goes on unless it is
  cancelled; with a timeout of zero there is no other that does. -/
  untimed : ∀ readings', (∀ i < suite.tests.length, (readings' i).cancelled = false) →
    let whole := (suite.run { settings with timeout := none } readings').report
    report.tests <+: whole.tests ∧ whole.tests.length = suite.tests.length
  /-- Before no test that is reported on did the run have a reason to stop. -/
  went : ∀ i < report.tests.length, ¬ settings.StopsOn (readings i)
  /-- If there is a next test, the run had a reason to stop before it. -/
  stopped : report.tests.length < suite.tests.length →
    settings.StopsOn (readings report.tests.length)
  interrupted : report.interrupted = true ↔ report.tests.length < suite.tests.length
  counters : report.passed = report.tests.countP (·.status = .passed) ∧
    report.failed = report.tests.countP (·.status = .failed) ∧
    report.skipped = report.tests.countP (·.status = .skipped)
  total : report.passed + report.failed + report.skipped = report.tests.length
  skipped : ∀ r ∈ report.tests, r.status = .skipped →
    r.seed = none ∧ r.clock = 0 ∧ r.steps = [] ∧ r.failures = [] ∧ r.dump = none

/-- **A run that stops early keeps a prefix**: it reports on the tests before the first one at which
it is cancelled or out of time, as it would if it went on, and is interrupted if that leaves a test
out. -/
theorem report_keeps_prefix (suite : Suite) (settings : Settings) (readings : Nat → Reading) :
    KeepsPrefix suite settings readings (suite.run settings readings).report := by
  have hfirst := suite.report_tests_prefix settings readings
  have hcounters := suite.report_counters settings readings
  refine ⟨?_, ?_, fun i hi => suite.not_stopsOn_of_lt settings readings hi,
    suite.stopsOn_of_lt settings readings, suite.report_interrupted_iff settings readings,
    hcounters, ?_, ?_⟩
  · intro readings' hcalm whole
    have hwhole : whole.tests = suite.testReports settings :=
      suite.report_tests_of_calm settings readings' hcalm
    rw [hwhole]
    exact ⟨hfirst, suite.length_testReports settings⟩
  · intro readings' hgo whole
    have hcalm : ∀ i < suite.tests.length,
        ¬ Settings.StopsOn { settings with timeout := none } (readings' i) := by
      rintro i hi (hc | ⟨timeout, hno, -⟩)
      · rw [hgo i hi] at hc
        cases hc
      · cases hno
    have hwhole : whole.tests = suite.testReports settings :=
      (suite.report_tests_of_calm _ readings' hcalm).trans (suite.testReports_untimed settings)
    rw [hwhole]
    exact ⟨hfirst, suite.length_testReports settings⟩
  · rw [hcounters.1, hcounters.2.1, hcounters.2.2]
    exact TestReport.countP_status_add _
  · intro r hr hs
    obtain ⟨i, hi, rfl⟩ := List.getElem_of_mem hr
    obtain ⟨test, -, hvisit⟩ :=
      suite.getElem?_report_tests settings readings (List.getElem?_eq_getElem hi)
    rw [hvisit] at hs ⊢
    rw [Suite.visit_report_of_skipped hs]
    exact ⟨rfl, rfl, rfl, rfl, rfl⟩

end StationBench
