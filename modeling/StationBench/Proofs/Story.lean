import StationBench.Proofs.Interruption
import StationBench.Proofs.Loop
/-!
# Reports and logs that agree

The report of a test lists its records by the places of their steps, and a failure for each record
that is not ok, in the same order and with the same text (`TestReport.Tells`). The log of a run
warns of the same failures, test by test, and then of what interrupted the run, if anything did;
it has no errors (`LogTells`). That this is so whatever happens is `report_and_log_agree`.
-/
namespace StationBench

/-! ## Tests -/

/-- A failure is what a record says. -/
structure Failure.Of (f : Failure) (r : StepRecord) : Prop where
  index : f.index = r.index
  type : f.type = r.type
  text : r.message = f.fault.text

/-- Records, failures and status of the report of a test agree. -/
structure TestReport.Tells (test : Test) (r : TestReport) : Prop where
  name : r.name = test.name
  /-- The records are numbered from zero on, and each is about the step of its number. -/
  steps : ∀ (i : Nat) (record : StepRecord), r.steps[i]? = some record →
    record.index = i ∧ ∃ s, test.steps[i]? = some s ∧ record.type = s.type
  /-- The failures are those of the records that are not ok, one by one. -/
  failures : List.Forall₂ Failure.Of r.failures (r.steps.filter (!·.ok))
  status : r.status = .failed ↔ r.failures ≠ []

namespace Entry

/-- An entry has a failure if its record is not ok. -/
theorem failures_records (entries : List Entry) :
    List.Forall₂ Failure.Of (entries.filterMap failure?)
      ((entries.map record).filter (!·.ok)) := by
  induction entries with
  | nil => exact .nil
  | cons e rest ih =>
    cases hf : e.fault? with
    | none => simpa [failure?, hf] using ih
    | some fault =>
      have hresult := fault?_eq_some_iff.1 hf
      have hof : Failure.Of ⟨e.index, e.step.type, fault⟩ e.record :=
        ⟨rfl, rfl, by simp [record, text, hresult]⟩
      simpa [failure?, hf] using ⟨hof, ih⟩

end Entry

namespace Trace

variable {rig : Rig} {flow : Flow} {steps : List Step} {b : Bench} {i : Nat} {e : Entry}

/-- The entry at a place is about the step at that place. -/
theorem step_of_getElem? (h : (run rig flow 0 steps b).entries[i]? = some e) :
    e.index = i ∧ steps[i]? = some e.step := by
  have hlt : i < (run rig flow 0 steps b).entries.length := (List.getElem?_eq_some_iff.1 h).1
  have hindex : ((run rig flow 0 steps b).entries.map Entry.index)[i]? = some i := by
    rw [index_entries, List.getElem?_range' hlt]
    simp
  have hstep : ((run rig flow 0 steps b).entries.map Entry.step)[i]? = some e.step := by simp [h]
  obtain ⟨later, hprefix⟩ := steps_entries_prefix rig flow 0 steps b
  refine ⟨by simpa [h] using hindex, ?_⟩
  rw [← hprefix, List.getElem?_append_left (by simpa using hlt), hstep]

end Trace

namespace TestReport

/-- The report of a test that ran tells of it. -/
theorem tells_ran (suite : Suite) (settings : Settings) (test : Test) (seed : UInt64) :
    (suite.perform settings test seed).report.Tells test := by
  refine ⟨rfl, ?_, Entry.failures_records _, ?_⟩
  · intro i record h
    have hmap : ((test.run (suite.rig settings) settings.continueOnFailure seed).entries.map
        Entry.record)[i]? = some record := h
    rw [List.getElem?_map] at hmap
    obtain ⟨e, he, rfl⟩ := Option.map_eq_some_iff.1 hmap
    obtain ⟨hindex, hstep⟩ := Trace.step_of_getElem? he
    exact ⟨hindex, e.step, hstep, rfl⟩
  · change Trace.status _ = .failed ↔ Trace.failures _ ≠ []
    rw [Trace.status_eq_failed_iff, ne_eq, Trace.failures_eq_nil_iff, Bool.not_eq_false]

theorem tells_skipped (test : Test) : (Visit.skipped test).report.Tells test :=
  ⟨rfl, by simp [Visit.report], .nil, by simp [Visit.report]⟩

end TestReport

/-! ## Logs -/

/-- The warnings of the failures of a report, test by test. -/
def RunReport.warnings (r : RunReport) : List LogRecord :=
  r.tests.flatMap fun t => t.failures.map (Failure.warning t.name)

/-- The records of a log that are not there for information only. -/
def graveRecords (log : List LogRecord) : List LogRecord := log.filter (·.severity ≠ .info)

/-- The log of a run tells of the failures in its report, and of what interrupted it. -/
structure LogTells (suite : Suite) (settings : Settings) (readings : Nat → Reading)
    (report : RunReport) (log : List LogRecord) : Prop where
  whole : report.interrupted = false → graveRecords log = report.warnings
  /-- An interrupted run says why it stopped, and before which test. -/
  interrupted : report.interrupted = true →
    ∃ test stop, suite.tests[report.tests.length]? = some test ∧
      settings.stop? (readings report.tests.length) = some stop ∧
      graveRecords log = report.warnings ++ [Interruption.record { stop, before := test.name }]
  errors : ∀ r ∈ log, r.severity ≠ .error

/-- What a visit tells the log is for information, but for its failures. -/
theorem Visit.graveRecords_records (v : Visit) :
    graveRecords v.records = v.report.failures.map (Failure.warning v.report.name) := by
  cases v with
  | skipped test => rfl
  | ran test seed dumped trace =>
    have hwarning (f : Failure) : (f.warning test.name).severity = .warn := rfl
    simp [graveRecords, records, report, hwarning]

namespace Suite

variable (suite : Suite) (settings : Settings) (readings : Nat → Reading)

/-- A run is interrupted before the first test that it does not visit. -/
theorem exists_of_visits_eq_some (i : Nat) (tests : List Test) {interruption : Interruption}
    (h : (suite.visits settings readings i tests).2 = some interruption) :
    ∃ test, tests[(suite.visits settings readings i tests).1.length]? = some test ∧
      settings.stop? (readings (i + (suite.visits settings readings i tests).1.length)) =
        some interruption.stop ∧ interruption.before = test.name := by
  induction tests generalizing i with
  | nil => simp [visits] at h
  | cons test rest ih =>
    rw [visits] at h ⊢
    cases hstop : settings.stop? (readings i) with
    | some stop =>
      simp only [hstop, Option.some.injEq] at h ⊢
      subst h
      exact ⟨test, rfl, hstop, rfl⟩
    | none =>
      simp only [hstop] at h ⊢
      obtain ⟨test', htest, hreading, hbefore⟩ := ih (i + 1) h
      refine ⟨test', by simpa using htest, ?_, hbefore⟩
      rwa [List.length_cons, ← Nat.add_assoc, Nat.add_right_comm]

/-- Of the log of a run the warnings of failures are grave, and that it was interrupted. -/
theorem graveRecords_run :
    graveRecords (suite.run settings readings).records =
      (suite.run settings readings).report.warnings ++
        (suite.run settings readings).interruption.toList.map Interruption.record := by
  have hvisits : graveRecords ((suite.run settings readings).visits.flatMap Visit.records) =
      (suite.run settings readings).report.warnings := by
    rw [RunReport.warnings, Run.report, RunReport.ofTests_eq, List.flatMap_map, graveRecords,
      List.filter_flatMap]
    exact congrArg (List.flatMap · _) (funext Visit.graveRecords_records)
  have hstopped (o : Option Interruption) :
      graveRecords (o.toList.map Interruption.record) = o.toList.map Interruption.record := by
    cases o <;> rfl
  -- the opening and the closing record are for information
  have hparts : graveRecords (suite.run settings readings).records =
      graveRecords ((suite.run settings readings).visits.flatMap Visit.records) ++
        graveRecords ((suite.run settings readings).interruption.toList.map Interruption.record) ++
        [] := by
    rw [Run.records, graveRecords, List.filter_append, List.filter_append]
    rfl
  rw [hparts, hvisits, hstopped, List.append_nil]

/-- Nothing in the log of a run is an error. -/
theorem severity_ne_error {r : LogRecord} (h : r ∈ (suite.run settings readings).records) :
    r.severity ≠ .error := by
  intro herror
  have hgrave : r ∈ graveRecords (suite.run settings readings).records :=
    List.mem_filter.2 ⟨h, by simp [herror]⟩
  rw [graveRecords_run, RunReport.warnings] at hgrave
  rcases List.mem_append.1 hgrave with hwarning | hstopped
  · obtain ⟨t, -, hwarning⟩ := List.mem_flatMap.1 hwarning
    obtain ⟨f, -, rfl⟩ := List.mem_map.1 hwarning
    cases herror
  · obtain ⟨interruption, -, rfl⟩ := List.mem_map.1 hstopped
    cases herror

/-- The log of a run tells of its report. -/
theorem logTells_run :
    LogTells suite settings readings (suite.run settings readings).report
      (suite.run settings readings).records := by
  have hmark : (suite.run settings readings).report.interrupted =
      (suite.run settings readings).interruption.isSome := by
    rw [Run.report, RunReport.ofTests_eq]
  refine ⟨?_, ?_, fun _ => suite.severity_ne_error settings readings⟩
  · intro h
    have hnone : (suite.run settings readings).interruption = none := by simpa [hmark] using h
    rw [graveRecords_run, hnone]
    exact List.append_nil _
  · intro h
    obtain ⟨interruption, hsome⟩ := Option.isSome_iff_exists.1 (hmark ▸ h)
    obtain ⟨test, htest, hstop, hbefore⟩ :=
      suite.exists_of_visits_eq_some settings readings 0 suite.tests hsome
    rw [← length_report_tests] at htest hstop
    rw [Nat.zero_add] at hstop
    refine ⟨test, interruption.stop, htest, hstop, ?_⟩
    rw [graveRecords_run, hsome, ← hbefore]
    rfl

/-- The report of a run tells of the tests of the suite. -/
theorem tells_visit (i : Nat) (test : Test) : (suite.visit settings i test).report.Tells test := by
  by_cases h : settings.selects test.name = true
  · rw [suite.visit_of_selects settings h]
    exact TestReport.tells_ran suite settings test _
  · rw [suite.visit_of_not_selects settings (Bool.eq_false_iff.2 h)]
    exact TestReport.tells_skipped test

end Suite

end StationBench
