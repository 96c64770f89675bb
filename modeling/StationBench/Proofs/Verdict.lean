import StationBench.Proofs.Run
/-!
# The verdict of a run

What stands behind a run that passed: `allPassed_iff_cleared` says that every selected test executed
all of its steps and none failed, and that nothing but the tests that are not selected was left out.
Whether tests stop at their first failure has no part in it (`stopping_agrees_with_going`).
-/
namespace StationBench

/-! ## Tests that passed -/

/-- What a run that passed reports of a test: a selected test executed all of its steps, and none
failed; any other was skipped. -/
structure Cleared (settings : Settings) (test : Test) (r : TestReport) : Prop where
  name : r.name = test.name
  skipped : settings.selects test.name = false → r.status = .skipped ∧ r.steps = []
  passed : settings.selects test.name = true →
    r.status = .passed ∧ r.steps.length = test.steps.length ∧ ∀ s ∈ r.steps, s.ok = true

theorem Cleared.status_ne_failed {settings : Settings} {test : Test} {r : TestReport}
    (h : Cleared settings test r) : r.status ≠ .failed := by
  by_cases hs : settings.selects test.name = true
  · rw [(h.passed hs).1]
    decide
  · rw [(h.skipped (Bool.eq_false_iff.2 hs)).1]
    decide

namespace Test

variable {t : Test} {rig : Rig} {continueOnFailure : Bool} {seed : UInt64}

/-- A test in which nothing failed executed all of its steps. -/
theorem steps_run_of_not_failed (h : (t.run rig continueOnFailure seed).failed = false) :
    (t.run rig continueOnFailure seed).entries.map Entry.step = t.steps :=
  Trace.steps_entries_of_not_failed h

/-- A test in which nothing failed executed every step of it with success on some bench. -/
theorem exists_ok_of_not_failed (h : (t.run rig continueOnFailure seed).failed = false)
    {step : Step} (hs : step ∈ t.steps) :
    ∃ (b : Bench) (note : Note), (b.execute rig step).1 = .ok note := by
  rw [← steps_run_of_not_failed h, List.mem_map] at hs
  obtain ⟨e, he, rfl⟩ := hs
  obtain ⟨b, hb⟩ := Trace.result_of_mem_entries he
  cases hr : e.result with
  | ok note => exact ⟨b, note, hb.symm.trans hr⟩
  | error f =>
    have hok := Trace.failed_eq_false_iff.1 h e he
    rw [Entry.fault?_eq_some_iff.2 hr] at hok
    cases hok

/-- A step of a type that nobody knows fails, and so does its test. -/
theorem isSupported_of_not_failed (h : (t.run rig continueOnFailure seed).failed = false)
    {step : Step} (hs : step ∈ t.steps) : step.isSupported = true := by
  obtain ⟨b, note, hok⟩ := exists_ok_of_not_failed h hs
  cases step with
  | unsupported type => cases hok
  | _ => rfl

end Test

namespace Suite

variable (suite : Suite) (settings : Settings)

theorem status_perform_eq_passed_iff {test : Test} {seed : UInt64} :
    (suite.perform settings test seed).report.status = .passed ↔
      (test.run (suite.rig settings) settings.continueOnFailure seed).failed = false :=
  Trace.status_eq_passed_iff

theorem cleared_visit {i : Nat} {test : Test}
    (h : (suite.visit settings i test).report.status ≠ .failed) :
    Cleared settings test (suite.visit settings i test).report := by
  by_cases hs : settings.selects test.name = true
  · rw [suite.visit_of_selects settings hs] at h ⊢
    generalize testSeed settings.seed i settings.perTestSeed test.seed = seed at h ⊢
    have hok : (test.run (suite.rig settings) settings.continueOnFailure seed).failed = false := by
      rw [Bool.eq_false_iff]
      intro hf
      exact h (Trace.status_eq_failed_iff.2 hf)
    refine ⟨rfl, ?_, ?_⟩
    · intro hns
      rw [hs] at hns
      cases hns
    · intro _
      refine ⟨(suite.status_perform_eq_passed_iff settings).2 hok, ?_, ?_⟩
      · rw [← Test.steps_run_of_not_failed hok, List.length_map]
        exact List.length_map _
      · intro s hmem
        obtain ⟨e, he, rfl⟩ := List.mem_map.1 hmem
        rw [Entry.record_ok, Trace.failed_eq_false_iff.1 hok e he]
        rfl
  · rw [suite.visit_of_not_selects settings (Bool.eq_false_iff.2 hs)]
    exact ⟨rfl, fun _ => ⟨rfl, rfl⟩, fun h => absurd h hs⟩

variable (readings : Nat → Reading)

theorem cleared_of_allPassed (h : (suite.run settings readings).report.allPassed = true) :
    List.Forall₂ (Cleared settings) suite.tests (suite.run settings readings).report.tests := by
  obtain ⟨hfailed, hint⟩ := RunReport.allPassed_iff.1 h
  rw [(suite.report_counters settings readings).2.1, List.countP_eq_zero] at hfailed
  rw [suite.report_tests_of_not_interrupted settings readings hint] at hfailed ⊢
  rw [List.forall₂_iff_get]
  constructor
  · rw [length_testReports]
  · intro i hi hi'
    have hget : (suite.testReports settings)[i] =
        (suite.visit settings i suite.tests[i]).report := by simp [testReports]
    have hne : (suite.visit settings i suite.tests[i]).report.status ≠ .failed := by
      intro hst
      apply hfailed _ (List.getElem_mem hi')
      rw [hget]
      exact decide_eq_true hst
    simp only [List.get_eq_getElem, hget]
    exact suite.cleared_visit settings hne

theorem allPassed_of_cleared
    (h : List.Forall₂ (Cleared settings) suite.tests (suite.run settings readings).report.tests) :
    (suite.run settings readings).report.allPassed = true := by
  rw [RunReport.allPassed_iff]
  constructor
  · rw [(suite.report_counters settings readings).2.1, List.countP_eq_zero]
    intro r hr
    obtain ⟨i, hi, rfl⟩ := List.getElem_of_mem hr
    have hc := (List.forall₂_iff_get.1 h).2 i (h.length_eq ▸ hi) hi
    simpa using hc.status_ne_failed
  · -- a report for every test leaves no test before which the run could have stopped
    rw [Bool.eq_false_iff]
    intro hint
    rw [report_interrupted_iff, h.length_eq] at hint
    omega

/-- A test that is reported as passed was performed, and nothing failed. -/
theorem not_failed_of_reported_passed {i : Nat} {test : Test} {r : TestReport}
    (ht : suite.tests[i]? = some test)
    (hr : (suite.run settings readings).report.tests[i]? = some r) (hp : r.status = .passed) :
    ∃ seed, (test.run (suite.rig settings) settings.continueOnFailure seed).failed = false := by
  obtain ⟨test', ht', rfl⟩ := suite.getElem?_report_tests settings readings hr
  obtain rfl : test = test' := Option.some.inj (ht.symm.trans ht')
  have hsel := suite.selects_of_status_ne_skipped settings (by rw [hp]; decide)
  rw [suite.visit_of_selects settings hsel, status_perform_eq_passed_iff] at hp
  exact ⟨_, hp⟩

theorem isSupported_of_reported_passed {i : Nat} {test : Test} {r : TestReport}
    (ht : suite.tests[i]? = some test)
    (hr : (suite.run settings readings).report.tests[i]? = some r) (hp : r.status = .passed)
    {step : Step} (hs : step ∈ test.steps) : step.isSupported = true := by
  obtain ⟨_, hok⟩ := suite.not_failed_of_reported_passed settings readings ht hr hp
  exact Test.isSupported_of_not_failed hok hs

end Suite

/-- **No vacuous pass**: a run passed if and only if it reports on every test of the suite, in
order, that it was skipped because it is not selected or executed all of its steps without a
failure. A test with a step of a type that nobody knows is never reported as passed. -/
theorem allPassed_iff_cleared (suite : Suite) (settings : Settings) (readings : Nat → Reading) :
    ((suite.run settings readings).report.allPassed = true ↔
      List.Forall₂ (Cleared settings) suite.tests (suite.run settings readings).report.tests) ∧
    ∀ (i : Nat) (test : Test) (r : TestReport), suite.tests[i]? = some test →
      (suite.run settings readings).report.tests[i]? = some r → r.status = .passed →
        ∀ step ∈ test.steps, step.isSupported = true := by
  refine ⟨⟨?_, ?_⟩, ?_⟩
  · exact suite.cleared_of_allPassed settings readings
  · exact suite.allPassed_of_cleared settings readings
  · intro i test r ht hr hp step hs
    exact suite.isSupported_of_reported_passed settings readings ht hr hp hs

/-- A test that is not selected may have a step of a type that nobody knows, and the run passes. -/
theorem allPassed_iff_cleared_filtered :
    let suite : Suite :=
      { groups := [], cards := {}, buttons := {}, dumpStateAfterTest := false
        tests :=
          [⟨"odd", 0, none, [.unsupported "Dance"]⟩, ⟨"wait", 0, none, [.sleep 5, .snapshot]⟩] }
    let settings : Settings := { only := ["wait"] }
    let report := (suite.run settings fun _ => ⟨false, 0⟩).report
    report.allPassed = true ∧ List.Forall₂ (Cleared settings) suite.tests report.tests ∧
      ∀ r, report.tests[1]? = some r → r.status = .passed ∧
        ∀ step ∈ [Step.sleep 5, .snapshot], step.isSupported = true := by
  intro suite settings report
  have hpass : report.allPassed = true := by decide
  obtain ⟨hiff, hsupported⟩ := allPassed_iff_cleared suite settings fun _ => ⟨false, 0⟩
  refine ⟨hpass, hiff.1 hpass, ?_⟩
  intro r hr
  have hpassed : r.status = .passed := by
    obtain rfl := Option.some.inj hr
    decide
  exact ⟨hpassed, hsupported 1 ⟨"wait", 0, none, [.sleep 5, .snapshot]⟩ r rfl hr hpassed⟩

/-! ## Stopping at the first failure -/

/-- The report of a test that ends with the first failure in the report of another. -/
structure EndsAtFirstFailureOf (stopping going : TestReport) : Prop where
  steps : ∃ before failed after, going.steps = before ++ failed :: after ∧
    (∀ s ∈ before, s.ok = true) ∧ failed.ok = false ∧ stopping.steps = before ++ [failed]
  failures : ∃ first later, going.failures = first :: later ∧ stopping.failures = [first]

theorem Trace.status_eq_failed_of_entries {t : Trace} {before after : List Entry} {e : Entry}
    (h : t.entries = before ++ e :: after) (he : e.fault?.isSome = true) : t.status = .failed := by
  rw [status_eq_failed_iff]
  unfold failed
  rw [List.any_eq_true]
  exact ⟨e, by simp [h], he⟩

theorem Entry.filterMap_failure?_append {before : List Entry} (h : ∀ x ∈ before, x.fault? = none)
    (rest : List Entry) : (before ++ rest).filterMap failure? = rest.filterMap failure? := by
  have hb : before.filterMap failure? = [] :=
    List.filterMap_eq_nil_iff.2 fun x hx => failure?_eq_none_iff.2 (h x hx)
  rw [List.filterMap_append, hb, List.nil_append]

theorem Visit.endsAtFirstFailureOf (test : Test) (seed : UInt64) (dumped : Bool)
    {stopping going : Trace} {before after : List Entry} {e : Entry}
    (hgo : going.entries = before ++ e :: after) (hstop : stopping.entries = before ++ [e])
    (hb : ∀ x ∈ before, x.fault? = none) (he : e.fault?.isSome = true) :
    EndsAtFirstFailureOf (ran test seed dumped stopping).report
      (ran test seed dumped going).report := by
  obtain ⟨f, hf⟩ := Option.isSome_iff_exists.1 he
  constructor
  · refine ⟨before.map Entry.record, e.record, after.map Entry.record, ?_, ?_, ?_, ?_⟩
    · simp [report, hgo]
    · intro s hs
      obtain ⟨x, hx, rfl⟩ := List.mem_map.1 hs
      rw [Entry.record_ok, hb x hx]
      rfl
    · rw [Entry.record_ok, hf]
      rfl
    · simp [report, hstop]
  · refine ⟨⟨e.index, e.step.type, f⟩, after.filterMap Entry.failure?, ?_, ?_⟩
    · rw [report, Trace.failures, hgo, Entry.filterMap_failure?_append hb]
      simp [Entry.failure?, hf]
    · rw [report, Trace.failures, hstop, Entry.filterMap_failure?_append hb]
      simp [Entry.failure?, hf]

namespace Suite

variable (suite : Suite) (settings : Settings) (test : Test) (seed : UInt64)

/-- The report of a test that goes on after failures. -/
def goingReport : TestReport :=
  (suite.perform { settings with continueOnFailure := true } test seed).report

/-- The report of a test that stops at its first failure. -/
def stoppingReport : TestReport :=
  (suite.perform { settings with continueOnFailure := false } test seed).report

/-- A test that goes on has a record of every step. -/
theorem records_goingReport :
    (suite.goingReport settings test seed).steps.map StepRecord.index =
        List.range test.steps.length ∧
      (suite.goingReport settings test seed).steps.map StepRecord.type =
        test.steps.map Step.type := by
  have hsteps : (test.run (suite.rig settings) true seed).entries.map Entry.step = test.steps :=
    Trace.steps_entries_of_continue rfl
  have hindex : (test.run (suite.rig settings) true seed).entries.map Entry.index =
      List.range' 0 (test.run (suite.rig settings) true seed).entries.length :=
    Trace.index_entries _ _ 0 test.steps _
  have hlen := congrArg List.length hsteps
  rw [List.length_map] at hlen
  constructor
  · rw [List.range_eq_range', ← hlen, ← hindex]
    exact List.map_map
  · rw [← hsteps, List.map_map]
    exact List.map_map

/-- Either nothing fails, and stopping is no different, or the test stops at the first failure. -/
theorem stoppingReport_cases :
    (suite.goingReport settings test seed).failures = [] ∧
      suite.stoppingReport settings test seed = suite.goingReport settings test seed ∨
    (suite.stoppingReport settings test seed).status =
        (suite.goingReport settings test seed).status ∧
      EndsAtFirstFailureOf (suite.stoppingReport settings test seed)
        (suite.goingReport settings test seed) := by
  rcases Trace.run_stopping_cases (suite.rig settings) test.sleepBetween 0 test.steps
      (.start (suite.rig settings) seed) with ⟨hok, heq⟩ | ⟨before, e, after, hgo, hb, he, hstop⟩
  · left
    constructor
    · exact Trace.failures_eq_nil_iff.2 hok
    · exact congrArg (fun t => (Visit.ran test seed suite.dumpStateAfterTest t).report) heq
  · right
    constructor
    · exact (Trace.status_eq_failed_of_entries hstop he).trans
        (Trace.status_eq_failed_of_entries hgo he).symm
    · exact Visit.endsAtFirstFailureOf test seed suite.dumpStateAfterTest hgo hstop hb he

theorem status_stoppingReport :
    (suite.stoppingReport settings test seed).status =
      (suite.goingReport settings test seed).status := by
  rcases suite.stoppingReport_cases settings test seed with ⟨_, heq⟩ | ⟨heq, _⟩
  · rw [heq]
  · exact heq

/-- Whether tests stop at their first failure does not show in the statuses of all tests. -/
theorem status_testReports :
    (suite.testReports { settings with continueOnFailure := false }).map TestReport.status =
      (suite.testReports { settings with continueOnFailure := true }).map TestReport.status := by
  unfold testReports
  rw [List.map_map, List.map_map]
  apply List.map_congr_left
  intro p _
  by_cases hs : settings.selects p.1.name = true
  · have hran (flag : Bool) : suite.visit { settings with continueOnFailure := flag } p.2 p.1 =
        suite.perform { settings with continueOnFailure := flag } p.1 _ :=
      suite.visit_of_selects _ hs
    simp only [Function.comp_apply, hran]
    exact suite.status_stoppingReport settings p.1 _
  · have hskip (flag : Bool) : suite.visit { settings with continueOnFailure := flag } p.2 p.1 =
        .skipped p.1 := suite.visit_of_not_selects _ (Bool.eq_false_iff.2 hs)
    simp only [Function.comp_apply, hskip]

/-- What an uninterrupted run counts depends only on the statuses of all tests. -/
theorem countP_status_of_not_interrupted {readings : Nat → Reading}
    (h : (suite.run settings readings).report.interrupted = false) (status : Status) :
    (suite.run settings readings).report.tests.countP (·.status = status) =
      ((suite.testReports settings).map TestReport.status).countP (· = status) := by
  rw [suite.report_tests_of_not_interrupted settings readings h, List.countP_map]
  rfl

end Suite

/-- **Stopping and going on agree**: a test has the same status whether it stops at its first
failure or goes on; the report of the test that stops is the other one up to the first failure, and
all of it if there is none. So the counters and the verdict of uninterrupted runs are the same. -/
theorem stopping_agrees_with_going (suite : Suite) (settings : Settings) :
    (∀ (test : Test) (seed : UInt64),
      (suite.stoppingReport settings test seed).status =
        (suite.goingReport settings test seed).status ∧
      ((suite.goingReport settings test seed).failures = [] →
        suite.stoppingReport settings test seed = suite.goingReport settings test seed) ∧
      ((suite.goingReport settings test seed).failures ≠ [] →
        EndsAtFirstFailureOf (suite.stoppingReport settings test seed)
          (suite.goingReport settings test seed)) ∧
      (suite.goingReport settings test seed).steps.map StepRecord.index =
        List.range test.steps.length ∧
      (suite.goingReport settings test seed).steps.map StepRecord.type =
        test.steps.map Step.type) ∧
    ∀ readings readings' : Nat → Reading,
      let stopping := (suite.run { settings with continueOnFailure := false } readings).report
      let going := (suite.run { settings with continueOnFailure := true } readings').report
      stopping.interrupted = false → going.interrupted = false →
        stopping.passed = going.passed ∧ stopping.failed = going.failed ∧
          stopping.skipped = going.skipped ∧ stopping.allPassed = going.allPassed := by
  constructor
  · intro test seed
    have hcases := suite.stoppingReport_cases settings test seed
    refine ⟨suite.status_stoppingReport settings test seed, ?_, ?_,
      suite.records_goingReport settings test seed⟩
    · intro hno
      rcases hcases with ⟨_, heq⟩ | ⟨_, hends⟩
      · exact heq
      · obtain ⟨first, later, hgo, _⟩ := hends.failures
        rw [hno] at hgo
        cases hgo
    · intro hfail
      rcases hcases with ⟨hno, _⟩ | ⟨_, hends⟩
      · exact absurd hno hfail
      · exact hends
  · intro readings readings' stopping going hs hg
    have hcount (status : Status) :
        stopping.tests.countP (·.status = status) = going.tests.countP (·.status = status) := by
      rw [suite.countP_status_of_not_interrupted _ hs, suite.countP_status_of_not_interrupted _ hg,
        suite.status_testReports]
    obtain ⟨hsp, hsf, hss⟩ :=
      suite.report_counters { settings with continueOnFailure := false } readings
    obtain ⟨hgp, hgf, hgs⟩ :=
      suite.report_counters { settings with continueOnFailure := true } readings'
    have hpassed : stopping.passed = going.passed := hsp.trans ((hcount _).trans hgp.symm)
    have hfailed : stopping.failed = going.failed := hsf.trans ((hcount _).trans hgf.symm)
    have hskipped : stopping.skipped = going.skipped := hss.trans ((hcount _).trans hgs.symm)
    refine ⟨hpassed, hfailed, hskipped, ?_⟩
    rw [RunReport.allPassed, RunReport.allPassed, hfailed, hs, hg]

/-- Without the card, the test that stops ends there, and the test that goes on waits. -/
theorem stopping_agrees_with_going_no_card :
    let suite : Suite :=
      { groups := [], cards := {}, buttons := {}, dumpStateAfterTest := false, tests := [] }
    let test : Test := ⟨"late", 0, none, [.snapshot, .scanCard 99, .sleep 5]⟩
    (suite.goingReport {} test 7).failures ≠ [] ∧
      EndsAtFirstFailureOf (suite.stoppingReport {} test 7) (suite.goingReport {} test 7) := by
  intro suite test
  have hfail : (suite.goingReport {} test 7).failures ≠ [] := List.cons_ne_nil _ _
  obtain ⟨_, _, hends, _⟩ := (stopping_agrees_with_going suite {}).1 test 7
  exact ⟨hfail, hends hfail⟩

end StationBench
